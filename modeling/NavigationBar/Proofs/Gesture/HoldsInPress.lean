import NavigationBar.Proofs.Gesture.EarnedHolds
import NavigationBar.Proofs.Gesture.OnePerRelease

/-!
# Holds within presses

The hold timer and the mark of a hold are kept apart from the press that they belong to, and every
input touches some of the three only. All the same neither is there without a press, and they are
never there together (`Detector.HoldsInPress`): a press that begins takes the mark away, every end
of a press takes both, and the timer is gone by the time it sets the mark. Which press goes on can
be read off the inputs, so a release without a press before it is never a hold.
-/

namespace NavigationBar

namespace Detector

/-- The hold timer is pending, or the press has become a hold, during a press only; never both. -/
structure HoldsInPress (d : Detector) : Prop where
  start_isSome : d.holdPending = true ∨ d.isHold = true → d.start.isSome = true
  target_isSome : d.holdPending = true ∨ d.isHold = true → d.target.isSome = true
  apart : ¬ (d.holdPending = true ∧ d.isHold = true)

variable {d : Detector} {c : Clock}

/-! ## Timers -/

theorem holdPending_cancel (t : Timers Slot Unit) : (t.cancel .hold).isActive .hold = false := by
  rw [Timers.isActive_eq, Timers.deadline?_cancel_self]
  rfl

/-- The hold timer is not pending any more once it fires. -/
theorem holdPending_fired (hf : d.timers.Fresh c) {e : Scheduled (Slot × Unit)}
    {rest : List (Scheduled (Slot × Unit))} (hp : d.timers.pending = e :: rest)
    (he : e.value.1 = .hold) : (d.timers.fired e.stamp).isActive .hold = false := by
  have hrest := hf.pending_fired_head hp
  have hslots := hf.slots
  rw [hp, List.map_cons, List.nodup_cons, he] at hslots
  rw [Timers.isActive, hrest, List.any_eq_false]
  intro x hx hslot
  have hslot : x.value.1 = .hold := by simpa using hslot
  exact hslots.1 (List.mem_map.2 ⟨x, hx, hslot⟩)

/-! ## Kept by every change -/

/-- Where no hold is hoped for or reached, there need not be a press. -/
theorem holdsInPress_of_none (hpending : d.holdPending = false) (hhold : d.isHold = false) :
    d.HoldsInPress := by
  have hno : ¬ (d.holdPending = true ∨ d.isHold = true) := by simp [hpending, hhold]
  exact ⟨fun h => absurd h hno, fun h => absurd h hno, fun h => hno (.inl h.1)⟩

/-- Nothing changes but the hold timer, which may go. -/
theorem HoldsInPress.keep (h : d.HoldsInPress) {d' : Detector}
    (hpending : d'.holdPending = true → d.holdPending = true) (hhold : d'.isHold = d.isHold)
    (hstart : d'.start = d.start) (htarget : d'.target = d.target) : d'.HoldsInPress := by
  have hor : d'.holdPending = true ∨ d'.isHold = true → d.holdPending = true ∨ d.isHold = true := by
    rw [hhold]
    exact Or.imp_left hpending
  refine ⟨fun h' => ?_, fun h' => ?_, fun h' => ?_⟩
  · rw [hstart]
    exact h.start_isSome (hor h')
  · rw [htarget]
    exact h.target_isSome (hor h')
  · exact h.apart ⟨hpending h'.1, hhold ▸ h'.2⟩

/-- A press that begins is no hold yet. A timer that an earlier press started may still run. -/
theorem holdsInPress_down (hd : d.isDetached = false) (supply : Option Bindings) (target : Target)
    (p : Point) : (d.down supply c target p).1.HoldsInPress := by
  have hpress : ∀ d' : Detector, d'.start = some p → d'.target = some target →
      d'.isHold = false → d'.HoldsInPress := by
    intro d' hstart htarget hhold
    refine ⟨fun _ => ?_, fun _ => ?_, fun h => ?_⟩
    · rw [hstart]
      rfl
    · rw [htarget]
      rfl
    · rw [hhold] at h
      exact absurd h.2 Bool.false_ne_true
  rw [down_of_attached hd]
  split
  · exact hpress _ rfl rfl rfl
  · exact hpress _ rfl rfl rfl

theorem HoldsInPress.move (h : d.HoldsInPress) (p : Point) : (d.move p).HoldsInPress := by
  rcases d.move_eq_or p with hmove | hmove <;> rw [hmove]
  · exact h
  · have hgone := holdPending_cancel d.timers
    exact h.keep (fun h' => absurd (hgone.symm.trans h') Bool.false_ne_true) rfl rfl rfl

theorem holdsInPress_up (hd : d.isDetached = false) (hf : d.timers.Fresh c)
    (supply : Option Bindings) (target : Target) : (d.up supply c target).1.HoldsInPress := by
  obtain ⟨htimer, hhold⟩ := up_hold hd hf supply target
  refine holdsInPress_of_none ?_ hhold
  rw [holdPending, Timers.isActive_eq, htimer]
  rfl

/-- The invariant is kept by every input, whether or not the detector watches. -/
theorem HoldsInPress.handle (h : d.HoldsInPress) (hf : d.timers.Fresh c)
    (supply : Option Bindings) (i : Input) : (d.handle supply c i).1.HoldsInPress := by
  cases i with
  | down target p =>
    cases hd : d.isDetached with
    | true => simpa [Detector.handle, down, hd] using h
    | false => exact holdsInPress_down hd supply target p
  | move p => exact h.move p
  | up target =>
    cases hd : d.isDetached with
    | true => simpa [Detector.handle, up, hd] using h
    | false => exact holdsInPress_up hd hf supply target
  | cancel => exact holdsInPress_of_none (holdPending_cancel d.timers) rfl
  | leave => exact holdsInPress_of_none (holdPending_cancel d.timers) rfl
  | detach => exact holdsInPress_of_none rfl rfl
  | setBindings b => exact h.keep id rfl rfl rfl

/-- The timer that fires first: if it is the hold timer, then the press that it waited for goes on,
and the timer is not pending any more when the press becomes a hold. -/
theorem HoldsInPress.wake (h : d.HoldsInPress) (hf : d.timers.Fresh c)
    {e : Scheduled (Slot × Unit)} {rest : List (Scheduled (Slot × Unit))}
    (hp : d.timers.pending = e :: rest) (supply : Option Bindings) :
    (d.wake supply e.stamp e.value.1).1.HoldsInPress := by
  rw [wake_fst]
  cases hslot : e.value.1 with
  | tap target =>
    have hnot : holdFires [e] = false := by simp [holdFires, hslot]
    refine h.keep ?_ (by simp [afterFiring, hnot]) rfl rfl
    intro hactive
    obtain ⟨x, hx, hxslot⟩ := List.any_eq_true.1 hactive
    exact List.any_eq_true.2 ⟨x, List.mem_of_mem_filter hx, hxslot⟩
  | hold =>
    have hpending : d.holdPending = true := by simp [holdPending, Timers.isActive, hp, hslot]
    have hgone := holdPending_fired hf hp hslot
    exact ⟨fun _ => h.start_isSome (.inl hpending), fun _ => h.target_isSome (.inl hpending),
      fun h' => absurd (hgone.symm.trans h'.1) Bool.false_ne_true⟩

/-- A release ends the press. -/
theorem start_up (hd : d.isDetached = false) (supply : Option Bindings) (target : Target) :
    (d.up supply c target).1.start = none :=
  (release_up hd supply c target).detector.2.2.2.1

end Detector

namespace DetectorRun

variable {r : DetectorRun}

/-! ## Steps and runs -/

theorem holdsInPress_begun (h : r.detector.HoldsInPress) (hs : r.Settled) (s : DetectorStep) :
    (r.begun s).detector.HoldsInPress := by
  rcases s with i | b | delay
  · exact h.handle hs.ready.toFresh r.supply i
  · exact h
  · exact h

/-- Pending timers fire one after the other. -/
theorem holdsInPress_foldl_wake {es rest : List (Scheduled (Slot × Unit))}
    (h : r.detector.HoldsInPress) (hf : r.detector.timers.Fresh r.clock)
    (hp : r.detector.timers.pending = es ++ rest) : (es.foldl wake r).detector.HoldsInPress := by
  induction es generalizing r with
  | nil => exact h
  | cons e es ih =>
    have htimers : (r.wake e).detector.timers = r.detector.timers.fired e.stamp := by
      have hdetector : (r.wake e).detector = (r.detector.wake r.supply e.stamp e.value.1).1 := rfl
      rw [hdetector, Detector.wake_fst]
      rfl
    refine ih (h.wake hf hp r.supply) ?_ ?_
    · rw [htimers]
      exact (hf.fired e.stamp).of_stamp_eq rfl
    · rw [htimers]
      exact hf.pending_fired_head hp

theorem holdsInPress_amid (h : r.detector.HoldsInPress) (hs : r.Settled) (s : DetectorStep)
    (count : Nat) : (r.amid s count).detector.HoldsInPress := by
  have hpending := Timers.due_append_pending_after (r.begun s).detector.timers
    (r.clock.now + s.delay)
  rw [← List.take_append_drop count (Timers.due _ _), List.append_assoc] at hpending
  exact holdsInPress_foldl_wake (holdsInPress_begun h hs s) (ready_begun hs s).1.toFresh
    hpending.symm

theorem holdsInPress_step (h : r.detector.HoldsInPress) (hs : r.Settled) (s : DetectorStep) :
    (r.step s).detector.HoldsInPress := by
  rw [hs.step_eq_amid s (Nat.le_refl _)]
  exact holdsInPress_amid h hs s _

theorem holdsInPress_run (h : r.detector.HoldsInPress) (hs : r.Settled)
    (steps : List DetectorStep) : (r.run steps).detector.HoldsInPress := by
  induction steps generalizing r with
  | nil => exact h
  | cons s steps ih => exact ih (holdsInPress_step h hs s) (hs.step s)

end DetectorRun

/-! ## The press that goes on -/

/-- Whether a press goes on after a step, if one went on before it or not. -/
def DetectorStep.leavesPress (before : Bool) : DetectorStep → Bool
  | input (.down _ _) => true
  | input (.up _) | input .leave | input .cancel => false
  | _ => before

/-- Whether the pointer was pressed since it was last released, left or was taken away. -/
def pressGoesOn (steps : List DetectorStep) : Bool :=
  steps.foldl DetectorStep.leavesPress false

theorem pressGoesOn_concat (steps : List DetectorStep) (s : DetectorStep) :
    pressGoesOn (steps ++ [s]) = s.leavesPress (pressGoesOn steps) :=
  List.foldl_append

namespace DetectorRun

variable {r : DetectorRun}

/-- The detector knows where a press began exactly as long as it goes on and the detector watches.
-/
theorem start_begun (hatt : r.detector.isDetached = false ∨ r.detector.Retired) {before : Bool}
    (h : r.detector.start.isSome = (before && !r.detector.isDetached)) (s : DetectorStep) :
    (r.begun s).detector.start.isSome =
      (s.leavesPress before && !(r.begun s).detector.isDetached) := by
  rcases s with i | b | delay
  · rcases hatt with hd | hr
    · cases i with
      | down target p =>
        rw [begun_down, Detector.down_of_attached hd]
        split
        · simp [Detector.pressed, hd, DetectorStep.leavesPress]
        · simp [Detector.pressed, hd, DetectorStep.leavesPress]
      | move p =>
        change (r.detector.move p).start.isSome = (before && !(r.detector.move p).isDetached)
        rcases r.detector.move_eq_or p with hmove | hmove <;> rw [hmove] <;> exact h
      | up target =>
        have hnone := Detector.start_up (c := r.clock) hd r.supply target
        change (r.detector.up r.supply r.clock target).1.start.isSome = false
        rw [hnone]
        rfl
      | cancel => rfl
      | leave => rfl
      | detach => exact (Bool.and_false _).symm
      | setBindings b => exact h
    · have hretired : (r.begun (.input i)).detector.Retired := (hr.handle r.supply r.clock i).1
      rw [hretired.start_eq, hretired.detached]
      exact (Bool.and_false _).symm
  · exact h
  · exact h

theorem start_run (hs : r.Settled) (hd : r.detector.isDetached = false)
    (hstart : r.detector.start = none) (steps : List DetectorStep) :
    (r.run steps).detector.start.isSome =
      (pressGoesOn steps && !(r.run steps).detector.isDetached) := by
  induction steps using List.reverseRecOn with
  | nil =>
    change r.detector.start.isSome = false
    rw [hstart]
    rfl
  | append_singleton steps s ih =>
    have hatt := attached_or_retired_run hs (.inl hd) steps
    have hbegun := start_begun hatt ih s
    rw [run_concat, (hs.run steps).detector_step, pressGoesOn_concat]
    exact hbegun

/-- A release of a press that is no hold reports none: the hold timer is cancelled before. -/
theorem hold_not_mem_reports_up (hs : r.Settled)
    (hatt : r.detector.isDetached = false ∨ r.detector.Retired) (hhold : r.detector.isHold = false)
    (released : Target) (time : Nat) (target : Target) :
    (time, ⟨.hold, target⟩) ∉ r.reports (.input (.up released)) := by
  intro hmem
  rw [hs.reports_eq, List.mem_append] at hmem
  rcases hmem with hanswer | hfired
  · rw [Option.mem_toList, Option.map_eq_some_iff] at hanswer
    obtain ⟨g, hg, heq⟩ := hanswer
    obtain ⟨-, rfl⟩ := Prod.mk.inj heq
    have hheld := (exists_up_of_answer hatt hg).2.1
    exact absurd (hhold.symm.trans hheld) Bool.false_ne_true
  · have hfires := (holdFires_of_report hfired).1
    rw [holdFires_due (ready_begun hs _).1.toFresh] at hfires
    have htimer : (r.begun (.input (.up released))).detector.timers.deadline? .hold = none := by
      rcases hatt with hd | hr
      · exact (Detector.up_hold hd hs.ready.toFresh r.supply released).1
      · have hretired : (r.begun (.input (.up released))).detector.Retired :=
          (hr.handle r.supply r.clock (.up released)).1
        rw [hretired.timers_eq]
        rfl
    rw [htimer] at hfires
    cases hfires

/-- After every step and in the middle of one, whatever is done with a detector: while the hold
timer is pending or the press has become a hold, a press goes on whose place and element are known,
and it is never both. The place of a press is known from its begin to its end, unless the detector
is taken off. A release reports no hold if the pointer was not pressed since it was last released,
left or was taken away. -/
theorem holds_in_press (timing : GestureTiming) (mode : HoldMode) (bindings : Bindings)
    (supply : Option Bindings) (clock : Clock) (steps : List DetectorStep) :
    let r := (untouched timing mode bindings supply clock).run steps
    (r.detector.HoldsInPress ∧ ∀ s count, (r.amid s count).detector.HoldsInPress) ∧
    r.detector.start.isSome = (pressGoesOn steps && !r.detector.isDetached) ∧
    (pressGoesOn steps = false → ∀ released time target,
      (time, ⟨.hold, target⟩) ∉ r.reports (.input (.up released))) := by
  intro r
  have hs := settled_untouched timing mode bindings supply clock
  have hr : r.Settled := hs.run steps
  have hnone : (untouched timing mode bindings supply clock).detector.HoldsInPress :=
    Detector.holdsInPress_of_none rfl rfl
  have hinv : r.detector.HoldsInPress := holdsInPress_run hnone hs steps
  have hstart := start_run hs rfl rfl steps
  refine ⟨⟨hinv, fun s count => holdsInPress_amid hinv hr s count⟩, hstart, ?_⟩
  intro hover released time target
  have hatt : r.detector.isDetached = false ∨ r.detector.Retired :=
    attached_or_retired_run hs (.inl rfl) steps
  have hhold : r.detector.isHold = false := by
    by_contra hhold
    have hsome := hinv.start_isSome (.inr (eq_true_of_ne_false hhold))
    rw [hstart, hover, Bool.false_and] at hsome
    exact absurd hsome Bool.false_ne_true
  exact hold_not_mem_reports_up hr hatt hhold released time target

/-- The timer of the first press runs on into the second, which becomes a hold and is left before
its release. -/
theorem holds_in_press_left :
    let steps : List DetectorStep :=
      [.input (.down "lamp" ⟨0, 0⟩), .sleep 300, .input (.setBindings ⟨true, false, false⟩),
        .input (.down "door" ⟨0, 0⟩), .input (.setBindings ⟨true, true, false⟩), .sleep 200,
        .input .leave, .sleep 40]
    let r := (untouched {} .onRelease ⟨true, true, false⟩ none {}).run steps
    pressGoesOn steps = false ∧ r.detector.HoldsInPress ∧
      (540, ⟨.hold, "door"⟩) ∉ r.reports (.input (.up "door")) := by
  intro steps r
  have hover : pressGoesOn steps = false := by decide
  obtain ⟨⟨hinv, -⟩, -, hreports⟩ :=
    holds_in_press {} .onRelease ⟨true, true, false⟩ none {} steps
  exact ⟨hover, hinv, hreports hover "door" 540 "door"⟩

end DetectorRun

end NavigationBar
