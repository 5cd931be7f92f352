import NavigationBar.Proofs.Gesture.Stepping

/-!
# Where holds come from

Whenever a hold is reported, the press that began last was left alone until the hold timer fired:
the pointer was neither released nor pressed again, it neither left nor was taken away, and it did
not move too far. If holds were bound when that press began, the timer is its own, and the press has
lasted long enough. A press that begins while holds are not bound leaves the timer of the press
before it running, and may inherit its hold. In any case the timer was started by a press that began
while holds were bound, and no press has ended since.
-/

namespace NavigationBar

namespace DetectorStep

/-- Whether a press begins. -/
def isDown : DetectorStep → Bool
  | .input (.down _ _) => true
  | _ => false

/-- Whether a step ends the hope that a press that began at `start` becomes a hold. -/
def disturbs (timing : GestureTiming) (start : Point) : DetectorStep → Bool
  | .input (.move p) => timing.exceeds start p
  | .input (.down _ _) | .input (.up _) | .input .cancel | .input .leave | .input .detach => true
  | .input (.setBindings _) | .setSupply _ | .sleep _ => false

/-- Whether a step ends the press that goes on. -/
def ends : DetectorStep → Bool
  | .input (.up _) | .input .cancel | .input .leave | .input .detach => true
  | _ => false

theorem ends_of_disturbs {timing : GestureTiming} {start : Point} {s : DetectorStep}
    (h : s.disturbs timing start = false) : s.ends = false := by
  rcases s with i | b | delay
  · cases i <;> simp_all [disturbs, ends]
  · rfl
  · rfl

theorem isDown_of_disturbs {timing : GestureTiming} {start : Point} {s : DetectorStep}
    (h : s.disturbs timing start = false) : s.isDown = false := by
  rcases s with i | b | delay
  · cases i <;> simp_all [disturbs, isDown]
  · rfl
  · rfl

/-- Among some steps there is one press that begins last. -/
theorem before_eq_before {before before' rest rest' : List DetectorStep} {s s' : DetectorStep}
    (h : before ++ s :: rest = before' ++ s' :: rest') (hs : s.isDown = true)
    (hs' : s'.isDown = true) (hrest : ∀ x ∈ rest, x.isDown = false)
    (hrest' : ∀ x ∈ rest', x.isDown = false) : before = before' := by
  rcases List.append_eq_append_iff.1 h with ⟨l, rfl, hl⟩ | ⟨l, rfl, hl⟩
  · cases l with
    | nil => simp
    | cons x l =>
      obtain ⟨rfl, rfl⟩ := List.cons.inj hl
      simp [hrest s' (by simp)] at hs'
  · cases l with
    | nil => simp
    | cons x l =>
      obtain ⟨rfl, rfl⟩ := List.cons.inj hl
      simp [hrest' s (by simp)] at hs

end DetectorStep

namespace DetectorRun

/-- Whether holds are bound. -/
def bindsHold (r : DetectorRun) : Bool :=
  (r.detector.bound r.supply).hold

/-- Among some steps there is a press that began while holds were bound, which is followed by no end
of a press. Its hold timer is due at a time. -/
def StartsTimer (r : DetectorRun) (steps : List DetectorStep) (due : Nat) : Prop :=
  ∃ before target start rest, steps = before ++ .input (.down target start) :: rest ∧
    (r.run before).bindsHold = true ∧ (∀ s ∈ rest, s.ends = false) ∧
    due = (r.run before).clock.now + r.detector.timing.hold

theorem StartsTimer.append {r : DetectorRun} {steps : List DetectorStep} {due : Nat}
    (h : r.StartsTimer steps due) {later : List DetectorStep}
    (hlater : ∀ s ∈ later, s.ends = false) : r.StartsTimer (steps ++ later) due := by
  obtain ⟨before, target, start, rest, rfl, hbound, hrest, hdue⟩ := h
  refine ⟨before, target, start, rest ++ later, by simp, hbound, ?_, hdue⟩
  intro s hs
  rcases List.mem_append.1 hs with hs | hs
  · exact hrest s hs
  · exact hlater s hs

/-- The press that began last among some steps was left alone until a hold timer fired. The timer
is its own if it began while holds were bound. -/
def HasHeld (r : DetectorRun) (steps : List DetectorStep) : Prop :=
  ∃ before target start during after due,
    steps = before ++ .input (.down target start) :: (during ++ after) ∧
    (∀ s ∈ during, s.disturbs r.detector.timing start = false) ∧
    (∀ s ∈ after, s.isDown = false) ∧
    r.StartsTimer (before ++ [.input (.down target start)]) due ∧
    ((r.run before).bindsHold = true →
      due = (r.run before).clock.now + r.detector.timing.hold) ∧
    due ≤ (r.run (before ++ .input (.down target start) :: during)).clock.now

theorem HasHeld.concat {r : DetectorRun} {steps : List DetectorStep} (h : r.HasHeld steps)
    {s : DetectorStep} (hs : s.isDown = false) : r.HasHeld (steps ++ [s]) := by
  obtain ⟨before, target, start, during, after, due, rfl, hduring, hafter, hlong⟩ := h
  refine ⟨before, target, start, during, after ++ [s], due, by simp, hduring, ?_, hlong⟩
  intro x hx
  rcases List.mem_append.1 hx with hx | hx
  · exact hafter x hx
  · rwa [List.mem_singleton.1 hx]

/-- The press that began last among some steps has been left alone, and a hold timer is due at a
time, its own if it began while holds were bound. -/
def WillHold (r : DetectorRun) (steps : List DetectorStep) (now : Option Point) (due : Nat) :
    Prop :=
  ∃ before target start during,
    steps = before ++ .input (.down target start) :: during ∧
    (∀ s ∈ during, s.disturbs r.detector.timing start = false) ∧ now = some start ∧
    r.StartsTimer (before ++ [.input (.down target start)]) due ∧
    ((r.run before).bindsHold = true → due = (r.run before).clock.now + r.detector.timing.hold)

theorem WillHold.concat {r : DetectorRun} {steps : List DetectorStep} {now : Option Point}
    {due : Nat} (h : r.WillHold steps now due) {s : DetectorStep}
    (hs : ∀ start, now = some start → s.disturbs r.detector.timing start = false) :
    r.WillHold (steps ++ [s]) now due := by
  obtain ⟨before, target, start, during, rfl, hduring, hnow, hdue⟩ := h
  refine ⟨before, target, start, during ++ [s], by simp, ?_, hnow, hdue⟩
  intro x hx
  rcases List.mem_append.1 hx with hx | hx
  · exact hduring x hx
  · rw [List.mem_singleton.1 hx]
    exact hs start hnow

/-- When the hold timer fires, the press has held. -/
theorem WillHold.hasHeld {r : DetectorRun} {steps : List DetectorStep} {now : Option Point}
    {due : Nat} (h : r.WillHold steps now due) (hdue : due ≤ (r.run steps).clock.now) :
    r.HasHeld steps := by
  obtain ⟨before, target, start, during, rfl, hduring, -, hstarts, hown⟩ := h
  exact ⟨before, target, start, during, [], due, by simp, hduring, by simp, hstarts, hown, hdue⟩

/-- The timer is still there when another press begins. -/
theorem WillHold.startsTimer {r : DetectorRun} {steps : List DetectorStep} {now : Option Point}
    {due : Nat} (h : r.WillHold steps now due) : r.StartsTimer steps due := by
  obtain ⟨before, target, start, during, rfl, hduring, -, hstarts, -⟩ := h
  have happend := hstarts.append fun s hs => DetectorStep.ends_of_disturbs (hduring s hs)
  rwa [List.append_assoc, List.singleton_append] at happend

/-- What the steps of a run from `r₀` say about the state `r` that they lead to. -/
structure Remembers (r₀ : DetectorRun) (steps : List DetectorStep) (r : DetectorRun) : Prop where
  /-- A pending hold timer waits for the press that began last. -/
  pending : ∀ due, r.detector.timers.deadline? .hold = some due →
    r₀.WillHold steps r.detector.start due
  /-- A hold has been held. -/
  held : r.detector.isHold = true → r₀.HasHeld steps

end DetectorRun

namespace Detector

/-- A release leaves neither a hold timer nor a hold. -/
theorem up_hold {d : Detector} {c : Clock} (hd : d.isDetached = false) (hf : d.timers.Fresh c)
    (supply : Option Bindings) (target : Target) :
    (d.up supply c target).1.timers.deadline? .hold = none ∧
      (d.up supply c target).1.isHold = false := by
  have hcancel := Timers.deadline?_cancel_self d.timers .hold
  have hrelease := release_up hd supply c target
  refine ⟨?_, hrelease.detector.2.2.2.2⟩
  generalize d.up supply c target = out at hrelease ⊢
  cases hrelease with
  | doubleTap => exact (Timers.deadline?_cancel_of_ne (by simp)).trans hcancel
  | deferred => exact ((hf.cancel .hold).deadline?_start_of_ne (by simp) _ _).trans hcancel
  | _ => exact hcancel

end Detector

namespace DetectorRun

variable {r₀ r : DetectorRun} {steps : List DetectorStep}

/-- A step that touches neither the press nor the hold timer. -/
theorem Remembers.concat {r' : DetectorRun} (h : r₀.Remembers steps r) {s : DetectorStep}
    (htimers : r'.detector.timers = r.detector.timers)
    (hstart : r'.detector.start = r.detector.start)
    (hhold : r'.detector.isHold = r.detector.isHold)
    (hs : ∀ due, r.detector.timers.deadline? .hold = some due →
      ∀ start, r.detector.start = some start → s.disturbs r₀.detector.timing start = false)
    (hdown : s.isDown = false) : r₀.Remembers (steps ++ [s]) r' where
  pending due hdue := by
    rw [htimers] at hdue
    rw [hstart]
    exact (h.pending due hdue).concat (hs due hdue)
  held hr' := by
    rw [hhold] at hr'
    exact (h.held hr').concat hdown

/-- A detector without a hold timer and a hold has nothing to remember. -/
theorem remembers_of_none (htimer : r.detector.timers.deadline? .hold = none)
    (hhold : r.detector.isHold = false) : r₀.Remembers steps r where
  pending due hdue := by
    rw [htimer] at hdue
    exact absurd hdue nofun
  held hr := by
    rw [hhold] at hr
    exact absurd hr nofun

theorem remembers_of_retired (h : r.detector.Retired) : r₀.Remembers steps r :=
  remembers_of_none (by rw [h.timers_eq]; rfl) h.isHold_eq

/-- A press either starts the hold timer or leaves one that is pending. -/
theorem Remembers.begun_down (h : r₀.Remembers steps r) (hrun : r = r₀.run steps) (hs : r.Settled)
    (hd : r.detector.isDetached = false) (htiming : r.detector.timing = r₀.detector.timing)
    (target : Target) (p : Point) :
    r₀.Remembers (steps ++ [.input (.down target p)]) (r.begun (.input (.down target p))) := by
  have hdet : (r.begun (.input (.down target p))).detector =
      (r.detector.down r.supply r.clock target p).1 := rfl
  have hwill : ∀ due, r₀.StartsTimer (steps ++ [.input (.down target p)]) due →
      (r.bindsHold = true → due = r.clock.now + r.detector.timing.hold) →
      r₀.WillHold (steps ++ [.input (.down target p)]) (some p) due := by
    intro due hstarts hown
    refine ⟨steps, target, p, [], rfl, by simp, rfl, hstarts, ?_⟩
    rw [← hrun, ← htiming]
    exact hown
  rw [Detector.down_of_attached hd] at hdet
  by_cases hb : (r.detector.bound r.supply).hold = true
  · rw [if_pos hb] at hdet
    refine ⟨fun due hdue => ?_, fun hhold => ?_⟩
    · rw [hdet] at hdue ⊢
      have hstart := hs.ready.toFresh.deadline?_start_self .hold r.detector.timing.hold ()
      obtain rfl := Option.some.inj (hdue.symm.trans hstart)
      refine hwill _ ⟨steps, target, p, [], rfl, ?_, by simp, ?_⟩ fun _ => rfl
      · rw [← hrun]
        exact hb
      · rw [← hrun, ← htiming]
    · rw [hdet] at hhold
      cases hhold
  · rw [if_neg hb] at hdet
    refine ⟨fun due hdue => ?_, fun hhold => ?_⟩
    · rw [hdet] at hdue ⊢
      have hbefore := (h.pending due hdue).startsTimer
      exact hwill due (hbefore.append (by simp [DetectorStep.ends])) fun hb' => absurd hb' hb
    · rw [hdet] at hhold
      cases hhold

/-- A move cancels the hold timer if it goes too far, and disturbs no press otherwise. -/
theorem Remembers.begun_move (h : r₀.Remembers steps r)
    (htiming : r.detector.timing = r₀.detector.timing) (p : Point) :
    r₀.Remembers (steps ++ [.input (.move p)]) (r.begun (.input (.move p))) := by
  have hdet : (r.begun (.input (.move p))).detector = r.detector.move p := rfl
  cases hpend : r.detector.holdPending with
  | false =>
    rw [Detector.move_of_not_pending hpend] at hdet
    refine h.concat (by rw [hdet]) (by rw [hdet]) (by rw [hdet]) ?_ rfl
    intro due hdue
    rw [Detector.holdPending, Timers.isActive_eq, hdue] at hpend
    cases hpend
  | true =>
    cases hstart : r.detector.start with
    | none =>
      rw [Detector.move, hstart] at hdet
      refine h.concat (by rw [hdet]) (by rw [hdet]) (by rw [hdet]) ?_ rfl
      intro due _ start hs'
      rw [hstart] at hs'
      cases hs'
    | some start =>
      rw [Detector.move_of_start hstart, hpend, Bool.true_and] at hdet
      by_cases hfar : r.detector.timing.exceeds start p = true
      · rw [if_pos hfar] at hdet
        refine ⟨fun due hdue => ?_, fun hhold => ?_⟩
        · rw [hdet, Timers.deadline?_cancel_self] at hdue
          cases hdue
        · rw [hdet] at hhold
          exact (h.held hhold).concat rfl
      · rw [if_neg hfar] at hdet
        refine h.concat (by rw [hdet]) (by rw [hdet]) (by rw [hdet]) ?_ rfl
        intro due _ start' hs'
        rw [hstart] at hs'
        rw [← Option.some.inj hs', ← htiming]
        exact Bool.eq_false_iff.2 hfar

theorem Remembers.begun (h : r₀.Remembers steps r) (hrun : r = r₀.run steps) (hs : r.Settled)
    (hatt : r.detector.isDetached = false ∨ r.detector.Retired)
    (htiming : r.detector.timing = r₀.detector.timing) (s : DetectorStep) :
    r₀.Remembers (steps ++ [s]) (r.begun s) := by
  rcases s with i | b | delay
  · rcases hatt with hd | hr
    · cases i with
      | down target p => exact h.begun_down hrun hs hd htiming target p
      | move p => exact h.begun_move htiming p
      | up target =>
        obtain ⟨htimer, hhold⟩ := Detector.up_hold hd hs.ready.toFresh r.supply target
        exact remembers_of_none htimer hhold
      | cancel => exact remembers_of_none (Timers.deadline?_cancel_self _ _) rfl
      | leave => exact remembers_of_none (Timers.deadline?_cancel_self _ _) rfl
      | detach => exact remembers_of_retired (Detector.retired_detach _)
      | setBindings b => exact h.concat rfl rfl rfl (fun _ _ _ _ => rfl) rfl
    · exact remembers_of_retired (hr.handle r.supply r.clock i).1
  · exact h.concat rfl rfl rfl (fun _ _ _ _ => rfl) rfl
  · exact h.concat rfl rfl rfl (fun _ _ _ _ => rfl) rfl

/-- The press that began last has held when the hold timer fires. -/
theorem Remembers.hasHeld (h : r₀.Remembers steps r) (hf : r.detector.timers.Fresh r.clock)
    {time : Nat} (htime : time = (r₀.run steps).clock.now)
    (hfires : Detector.holdFires (r.detector.timers.due time) = true) : r₀.HasHeld steps := by
  rw [holdFires_due hf, Option.any_eq_true] at hfires
  obtain ⟨due, hdue, hle⟩ := hfires
  have hle' : due ≤ (r₀.run steps).clock.now := htime ▸ of_decide_eq_true hle
  exact (h.pending due hdue).hasHeld hle'

/-- The run after some steps remembers what they were, as does the run in which the input of
another step is handled. -/
theorem remembers_run (hs : r₀.Settled) (hd : r₀.detector.isDetached = false)
    (hhold : r₀.detector.isHold = false) (htimer : r₀.detector.timers.deadline? .hold = none)
    (steps : List DetectorStep) : r₀.Remembers steps (r₀.run steps) := by
  induction steps using List.reverseRecOn with
  | nil => exact remembers_of_none htimer hhold
  | append_singleton steps s ih =>
    have hrs := hs.run steps
    have hatt := attached_or_retired_run hs (.inl hd) steps
    have hb := ih.begun rfl hrs hatt (hs.settings_run steps).1 s
    have hfresh := (ready_begun hrs s).1.toFresh
    have hclock : (r₀.run steps).clock.now + s.delay = (r₀.run (steps ++ [s])).clock.now := by
      rw [run_concat, hrs.clock_step]
    have hdet := hrs.detector_step s
    rw [← run_concat] at hdet
    refine ⟨fun due hdue => ?_, fun hheld => ?_⟩
    · rw [hdet] at hdue ⊢
      have hafter := (hfresh.deadline?_after _ _).symm.trans hdue
      exact hb.pending due (Option.filter_eq_some_iff.1 hafter).1
    · rw [hdet, Detector.afterFiring, Bool.or_eq_true, Bool.and_eq_true] at hheld
      rcases hheld with hheld | ⟨hfires, -⟩
      · exact hb.held hheld
      · exact hb.hasHeld hfresh hclock hfires

/-! ## Reports of holds -/

/-- A hold that is reported as a timer fires is reported by the hold timer. -/
theorem holdFires_of_report {d : Detector} {supply : Option Bindings}
    {es : List (Scheduled (Slot × Unit))} {time : Nat} {target : Target}
    (h : (time, ⟨.hold, target⟩) ∈ es.filterMap (d.firing? supply)) :
    Detector.holdFires es = true ∧ d.mode = .onTimer ∧ (d.bound supply).hold = true := by
  obtain ⟨e, he, hfire⟩ := List.mem_filterMap.1 h
  unfold Detector.firing? at hfire
  cases hslot : e.value.1 with
  | tap other => simp [hslot] at hfire
  | hold =>
    have hfires : Detector.holdFires es = true := List.any_eq_true.2 ⟨e, he, by simp [hslot]⟩
    simp only [hslot] at hfire
    split at hfire
    · exact absurd hfire nofun
    · split at hfire
      · rename_i hmode
        exact ⟨hfires, hmode⟩
      · exact absurd hfire nofun

/-- A hold that answers an input was held before its release. -/
theorem exists_up_of_answer {s : DetectorStep} {target : Target}
    (hatt : r.detector.isDetached = false ∨ r.detector.Retired)
    (h : r.answer? s = some ⟨.hold, target⟩) :
    s = .input (.up target) ∧ r.detector.isHold = true ∧ r.detector.mode = .onRelease := by
  rcases s with i | b | delay
  · rcases hatt with hd | hr
    · cases i with
      | up released =>
        change (r.detector.up r.supply r.clock released).2.2 = _ at h
        have hrelease := Detector.release_up hd r.supply r.clock released
        generalize r.detector.up r.supply r.clock released = out at h hrelease
        cases hrelease with
        | hold _ hhold hmode =>
          simp only [Option.some.injEq, Recognition.mk.injEq, true_and] at h
          exact ⟨by rw [h], hhold, hmode⟩
        | _ => simp at h
      | _ => exact absurd h nofun
    · have hnone := (hr.handle r.supply r.clock i).2
      exact absurd (hnone.symm.trans h) nofun
  · exact absurd h nofun
  · exact absurd h nofun

/-- Whenever a hold is reported, the press that began last was left alone until the hold timer
fired. That was not before the hold delay had passed since a press that began while holds were
bound, with no end of a press in between; this is the same press, if holds were bound when it began.
-/
theorem hold_earned (timing : GestureTiming) (mode : HoldMode) (bindings : Bindings)
    (supply : Option Bindings) (clock : Clock) (steps : List DetectorStep) (s : DetectorStep)
    (time : Nat) (target : Target)
    (h : (time, ⟨.hold, target⟩) ∈
      ((untouched timing mode bindings supply clock).run steps).reports s) :
    (untouched timing mode bindings supply clock).HasHeld (steps ++ [s]) := by
  have hs := settled_untouched timing mode bindings supply clock
  generalize hr₀ : untouched timing mode bindings supply clock = r₀ at *
  have hd : r₀.detector.isDetached = false := by rw [← hr₀]; rfl
  have hmem := remembers_run hs hd (by rw [← hr₀]; rfl) (by rw [← hr₀]; rfl) steps
  have hrs := hs.run steps
  have hatt := attached_or_retired_run hs (.inl hd) steps
  rw [hrs.reports_eq, List.mem_append] at h
  rcases h with hanswer | hfired
  · -- The release of a hold.
    rw [Option.mem_toList, Option.map_eq_some_iff] at hanswer
    obtain ⟨g, hg, heq⟩ := hanswer
    obtain ⟨-, rfl⟩ := Prod.mk.inj heq
    obtain ⟨rfl, hheld, -⟩ := exists_up_of_answer hatt hg
    exact (hmem.held hheld).concat rfl
  · -- The hold timer.
    have hb := hmem.begun rfl hrs hatt (hs.settings_run steps).1 s
    have hfires := (holdFires_of_report hfired).1
    refine hb.hasHeld (ready_begun hrs s).1.toFresh ?_ hfires
    rw [run_concat, hrs.clock_step]

/-- A press of two seconds with a small movement, reported at its release. -/
theorem hold_earned_two_seconds :
    let r₀ := untouched {} .onRelease ⟨true, true, true⟩ none {}
    let steps : List DetectorStep :=
      [.sleep 5, .input (.down "lamp" ⟨1, 1⟩), .sleep 400, .input (.move ⟨4, 3⟩), .sleep 1600]
    (2005, ⟨.hold, "lamp"⟩) ∈ (r₀.run steps).reports (.input (.up "lamp")) ∧
      r₀.HasHeld (steps ++ [.input (.up "lamp")]) := by
  intro r₀ steps
  have h : (2005, ⟨.hold, "lamp"⟩) ∈ (r₀.run steps).reports (.input (.up "lamp")) := by
    decide +kernel
  exact ⟨h, hold_earned {} .onRelease ⟨true, true, true⟩ none {} steps _ 2005 "lamp" h⟩

/-- The press on the second element begins while holds are not bound, and is reported as a hold
after 200 ms because the timer of the press before it still runs. -/
theorem hold_of_press_before :
    let r₀ := untouched {} .onTimer ⟨true, true, false⟩ none {}
    let steps : List DetectorStep :=
      [.input (.down "lamp" ⟨0, 0⟩), .sleep 300, .input (.setBindings ⟨true, false, false⟩),
        .input (.down "door" ⟨0, 0⟩), .input (.setBindings ⟨true, true, false⟩)]
    (500, ⟨.hold, "door"⟩) ∈ (r₀.run steps).reports (.sleep 200) ∧
      ¬ ∃ before target start during after,
        steps ++ [.sleep 200] = before ++ .input (.down target start) :: (during ++ after) ∧
        (∀ s ∈ during, s.disturbs r₀.detector.timing start = false) ∧
        (∀ s ∈ after, s.isDown = false) ∧
        (r₀.run before).bindsHold = true ∧
        (r₀.run before).clock.now + r₀.detector.timing.hold ≤
          (r₀.run (before ++ .input (.down target start) :: during)).clock.now := by
  intro r₀ steps
  refine ⟨by decide +kernel, ?_⟩
  rintro ⟨before, target, start, during, after, heq, hduring, hafter, hb, -⟩
  have hrest : ∀ x ∈ during ++ after, x.isDown = false := by
    intro x hx
    rcases List.mem_append.1 hx with hx | hx
    · exact DetectorStep.isDown_of_disturbs (hduring x hx)
    · exact hafter x hx
  have hsplit : steps.take 3 ++ .input (.down "door" ⟨0, 0⟩) ::
      [.input (.setBindings ⟨true, true, false⟩), .sleep 200] =
        before ++ .input (.down target start) :: (during ++ after) := heq
  have hbefore : steps.take 3 = before :=
    DetectorStep.before_eq_before hsplit rfl rfl (by simp [DetectorStep.isDown]) hrest
  have hunbound : (r₀.run (steps.take 3)).bindsHold = false := by decide +kernel
  rw [hbefore, hb] at hunbound
  exact absurd hunbound nofun

end DetectorRun

end NavigationBar
