import NavigationBar.Gesture.Run

/-!
# What inputs do to a detector

A detector that watches answers a press in two ways, a move in two and a release in six. The six are
listed with their conditions (`Detector.Release`), so that what is said of releases is shown for
each of them.
-/

namespace NavigationBar

namespace Detector

variable {d : Detector} {c : Clock}

/-- The bindings that a detector sees when it asks for them. -/
def bound (d : Detector) (supply : Option Bindings) : Bindings :=
  supply.getD d.bindings

/-- Asking again gives the same bindings. -/
theorem getD_bound (d : Detector) (supply : Option Bindings) :
    supply.getD (d.bound supply) = d.bound supply := by
  cases supply <;> rfl

/-! ## Presses -/

/-- A detector after a press began, before a hold timer is started. -/
def pressed (d : Detector) (supply : Option Bindings) (target : Target) (p : Point) : Detector :=
  { d with bindings := d.bound supply, start := some p, target := some target, isHold := false }

/-- A press starts the hold timer where holds are bound. -/
theorem down_of_attached (h : d.isDetached = false) (supply : Option Bindings) (c : Clock)
    (target : Target) (p : Point) :
    d.down supply c target p =
      if (d.bound supply).hold then
        ({ d.pressed supply target p with
            timers := d.timers.start c .hold d.timing.hold () }, c.tick)
      else (d.pressed supply target p, c) := by
  unfold down
  rw [if_neg (by simp [h])]
  rfl

/-! ## Moves -/

theorem move_of_not_pending (h : d.holdPending = false) (p : Point) : d.move p = d := by
  unfold move
  cases d.start <;> simp [h]

theorem move_of_start {start : Point} (h : d.start = some start) (p : Point) :
    d.move p = if d.holdPending && d.timing.exceeds start p then
      { d with timers := d.timers.cancel .hold } else d := by
  simp [move, h]

/-- A move cancels the hold timer or does nothing. -/
theorem move_eq_or (d : Detector) (p : Point) :
    d.move p = d ∨ d.move p = { d with timers := d.timers.cancel .hold } := by
  unfold move
  split
  · split
    · exact .inr rfl
    · exact .inl rfl
  · exact .inl rfl

/-! ## Releases -/

/-- A detector after a release, before the gesture is told apart. -/
def released (d : Detector) (supply : Option Bindings) : Detector :=
  { d with bindings := d.bound supply, start := none, timers := d.timers.cancel .hold }

/-- A release is told apart in this order: a double tap, a hold, a tap. -/
theorem up_of_attached (h : d.isDetached = false) (supply : Option Bindings) (target : Target) :
    d.up supply c target =
      if (d.released supply).completesDoubleTap c.now target then
        ({ d.released supply with
            lastTap := none
            isHold := false
            timers := (d.timers.cancel .hold).cancel (.tap target) },
          c, some ⟨.doubleTap, target⟩)
      else if d.isHold then
        match d.mode with
        | .onTimer => ({ d.released supply with isHold := false, lastTap := none }, c, none)
        | .onRelease =>
          if (d.bound supply).hold then
            ({ d.released supply with isHold := false, lastTap := none }, c,
              some ⟨.hold, target⟩)
          else { d.released supply with isHold := false }.shortPress c target
      else (d.released supply).shortPress c target := by
  unfold up
  rw [if_neg (by simp [h])]
  rfl

/-- A press that did not become a hold, or became one that is neither reported yet nor bound. -/
def IsShort (d : Detector) (supply : Option Bindings) : Prop :=
  d.isHold = true → d.mode = .onRelease ∧ (d.bound supply).hold = false

/-- What a detector that watches may make of a release on an element: its new state, the clock and
its report. -/
inductive Release (d : Detector) (supply : Option Bindings) (c : Clock) (target : Target) :
    Detector × Clock × Option Recognition → Prop where
  /-- A double tap, in place of the tap that is deferred. -/
  | doubleTap (hdouble : (d.released supply).completesDoubleTap c.now target = true) :
    Release d supply c target
      ({ d.released supply with
          lastTap := none
          isHold := false
          timers := (d.timers.cancel .hold).cancel (.tap target) },
        c, some ⟨.doubleTap, target⟩)
  /-- The end of a hold that was reported when its timer fired. -/
  | afterHold (hdouble : (d.released supply).completesDoubleTap c.now target = false)
    (hhold : d.isHold = true) (hmode : d.mode = .onTimer) :
    Release d supply c target ({ d.released supply with isHold := false, lastTap := none }, c, none)
  /-- A hold that is reported now. -/
  | hold (hdouble : (d.released supply).completesDoubleTap c.now target = false)
    (hhold : d.isHold = true) (hmode : d.mode = .onRelease)
    (hbound : (d.bound supply).hold = true) :
    Release d supply c target
      ({ d.released supply with isHold := false, lastTap := none }, c, some ⟨.hold, target⟩)
  /-- A tap where none are bound. -/
  | unbound (hdouble : (d.released supply).completesDoubleTap c.now target = false)
    (hshort : d.IsShort supply) (htap : (d.bound supply).tap = false) :
    Release d supply c target
      ({ d.released supply with isHold := false, lastTap := some (c.now, target) }, c, none)
  /-- A tap that waits for a second one. -/
  | deferred (hdouble : (d.released supply).completesDoubleTap c.now target = false)
    (hshort : d.IsShort supply) (htap : (d.bound supply).tap = true)
    (hsecond : (d.bound supply).doubleTap = true) :
    Release d supply c target
      ({ d.released supply with
          isHold := false
          lastTap := some (c.now, target)
          timers := (d.timers.cancel .hold).start c (.tap target) d.timing.window () },
        c.tick, none)
  /-- A tap. -/
  | tap (hdouble : (d.released supply).completesDoubleTap c.now target = false)
    (hshort : d.IsShort supply) (htap : (d.bound supply).tap = true)
    (hsecond : (d.bound supply).doubleTap = false) :
    Release d supply c target
      ({ d.released supply with isHold := false, lastTap := some (c.now, target) }, c,
        some ⟨.tap, target⟩)

theorem release_shortPress {supply : Option Bindings} {target : Target}
    (hdouble : (d.released supply).completesDoubleTap c.now target = false)
    (hshort : d.IsShort supply) :
    d.Release supply c target
      (({ d.released supply with isHold := false } : Detector).shortPress c target) := by
  unfold shortPress
  dsimp only [released]
  cases htap : (d.bound supply).tap with
  | false => exact .unbound hdouble hshort htap
  | true =>
    cases hsecond : (d.bound supply).doubleTap with
    | false => exact .tap hdouble hshort htap hsecond
    | true => exact .deferred hdouble hshort htap hsecond

/-- A release has one of these outcomes. -/
theorem release_up (h : d.isDetached = false) (supply : Option Bindings) (c : Clock)
    (target : Target) : d.Release supply c target (d.up supply c target) := by
  rw [up_of_attached h]
  cases hdouble : (d.released supply).completesDoubleTap c.now target with
  | true => exact .doubleTap hdouble
  | false =>
    cases hhold : d.isHold with
    | false =>
      -- The mark of a hold is not cleared here, as there is none.
      have hsame : d.released supply = { d.released supply with isHold := false } := by
        rw [← hhold]
        rfl
      rw [hsame]
      exact release_shortPress hdouble fun h' => absurd (hhold.symm.trans h') Bool.false_ne_true
    | true =>
      cases hmode : d.mode with
      | onTimer => exact .afterHold hdouble hhold hmode
      | onRelease =>
        cases hbound : (d.bound supply).hold with
        | true => exact .hold hdouble hhold hmode hbound
        | false => exact release_shortPress hdouble fun _ => ⟨hmode, hbound⟩

/-- A release ends the press and the hold, and changes no settings. -/
theorem Release.detector {supply : Option Bindings} {target : Target}
    {out : Detector × Clock × Option Recognition} (h : d.Release supply c target out) :
    out.1.timing = d.timing ∧ out.1.mode = d.mode ∧ out.1.isDetached = d.isDetached ∧
      out.1.start = none ∧ out.1.isHold = false := by
  cases h <;> exact ⟨rfl, rfl, rfl, rfl, rfl⟩

end Detector

end NavigationBar
