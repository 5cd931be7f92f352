import NavigationBar.Proofs.Gesture.Stepping
import NavigationBar.Proofs.Gesture.Tracking

/-!
# Counting taps

Where taps and double taps are bound and holds are not, every release is a tap or half of a double
tap, reported at once or deferred; or it is lost. A detector defers one tap for each element but
remembers the last tap of all elements only. So a release that finds a tap of its element still
deferred, while the last tap was elsewhere or was used up, does not pair with that tap but replaces
it. The balance of releases, reports, deferred and replaced taps is kept by every step.
-/

namespace NavigationBar

namespace DetectorStep

/-- Whether the pointer is released on an element. -/
def isRelease (target : Target) : DetectorStep → Bool
  | .input (.up released) => released = target
  | _ => false

/-- Whether a step leaves the detector attached and what is bound as it is. -/
def keepsBindings : DetectorStep → Bool
  | .input .detach | .input (.setBindings _) | .setSupply _ => false
  | _ => true

/-- When the pointer is released on which element, in steps that begin now. -/
def releases (now : Nat) : List DetectorStep → List (Nat × Target)
  | [] => []
  | .input (.up target) :: steps => (now, target) :: releases now steps
  | s :: steps => releases (now + s.delay) steps

end DetectorStep

/-- Whether a release makes a double tap together with the last tap of all. -/
def isSecondTap (window : Nat) (last : Option (Nat × Target)) (now : Nat) (target : Target) :
    Bool :=
  last.any fun (time, tapped) => tapped == target && now - time < window

/-- How many taps on an element are replaced by later ones before they are reported. The last tap of
all is `last`; `waiting` is when the tap on the element was that is deferred, or was. -/
def replacedTaps (window : Nat) (target : Target) (last : Option (Nat × Target))
    (waiting : Option Nat) : List (Nat × Target) → Nat
  | [] => 0
  | (now, released) :: rest =>
    if isSecondTap window last now released then
      replacedTaps window target none (if released = target then none else waiting) rest
    else if released = target then
      (if waiting.any (now - · < window) then 1 else 0) +
        replacedTaps window target (some (now, released)) (some now) rest
    else replacedTaps window target (some (now, released)) waiting rest

/-- Between two releases on an element that are less than a window apart, no other element is
released. -/
def StaysOn (window : Nat) (target : Target) (l : List (Nat × Target)) : Prop :=
  ∀ before between after now later,
    l = before ++ (now, target) :: (between ++ (later, target) :: after) →
      later - now < window → ∀ x ∈ between, x.2 = target

/-- Among some releases the last one on an element was at a given time, and `last` names it if no
other release followed. -/
def IsLastOn (target : Target) (past : List (Nat × Target)) (last : Option (Nat × Target))
    (time : Nat) : Prop :=
  ∃ before between, past = before ++ (time, target) :: between ∧ (∀ x ∈ between, x.2 ≠ target) ∧
    (between = [] → last = some (time, target))

/-- A release elsewhere stands between the last one on the element and whatever follows. -/
theorem IsLastOn.concat {target : Target} {past : List (Nat × Target)}
    {last : Option (Nat × Target)} {time : Nat} (h : IsLastOn target past last time)
    {x : Nat × Target} (hx : x.2 ≠ target) (last' : Option (Nat × Target)) :
    IsLastOn target (past ++ [x]) last' time := by
  obtain ⟨before, between, rfl, hbetween, -⟩ := h
  refine ⟨before, between ++ [x], by simp, ?_, by simp⟩
  intro y hy
  rcases List.mem_append.1 hy with hy | hy
  · exact hbetween y hy
  · rwa [List.mem_singleton.1 hy]

/-- A release on the element that makes no double tap comes a window after the last one. -/
theorem IsLastOn.not_lt {window now time : Nat} {target : Target}
    {past rest : List (Nat × Target)} {last : Option (Nat × Target)}
    (h : IsLastOn target past last time)
    (hstays : StaysOn window target (past ++ (now, target) :: rest))
    (hsecond : isSecondTap window last now target ≠ true) : ¬ now - time < window := by
  obtain ⟨before, between, rfl, hbetween, hlast⟩ := h
  intro hwindow
  have hall := hstays before between rest time now (by simp) hwindow
  have hnil : between = [] := by
    rw [List.eq_nil_iff_forall_not_mem]
    exact fun y hy => hbetween y hy (hall y hy)
  exact hsecond (by simp [isSecondTap, hlast hnil, hwindow])

theorem replacedTaps_eq_zero_of_past {window : Nat} {target : Target}
    {last : Option (Nat × Target)} {waiting : Option Nat} {past l : List (Nat × Target)}
    (h : StaysOn window target (past ++ l))
    (hwaiting : ∀ time, waiting = some time → IsLastOn target past last time) :
    replacedTaps window target last waiting l = 0 := by
  induction l generalizing past last waiting with
  | nil => rfl
  | cons x rest ih =>
    obtain ⟨now, released⟩ := x
    have hnext : StaysOn window target ((past ++ [(now, released)]) ++ rest) := by
      rwa [List.append_assoc, List.singleton_append]
    rw [replacedTaps]
    by_cases hsecond : isSecondTap window last now released = true
    · rw [if_pos hsecond]
      refine ih hnext fun time htime => ?_
      by_cases ht : released = target
      · simp [ht] at htime
      · rw [if_neg ht] at htime
        exact (hwaiting time htime).concat ht none
    · rw [if_neg hsecond]
      by_cases ht : released = target
      · subst ht
        have hnone : waiting.any (now - · < window) = false := by
          rw [Option.any_eq_false]
          intro time htime
          simpa using (hwaiting time htime).not_lt h hsecond
        rw [if_pos rfl, hnone, ih hnext]
        · rfl
        · rintro time ⟨⟩
          exact ⟨past, [], rfl, by simp, fun _ => rfl⟩
      · rw [if_neg ht]
        exact ih hnext fun time htime => (hwaiting time htime).concat ht _

/-- Taps on an element are not replaced if no other element is released between two releases on it
that are less than a window apart. -/
theorem replacedTaps_eq_zero {window : Nat} {target : Target} {l : List (Nat × Target)}
    (h : StaysOn window target l) : replacedTaps window target none none l = 0 := by
  have hpast : StaysOn window target ([] ++ l) := h
  exact replacedTaps_eq_zero_of_past hpast nofun

namespace DetectorRun

variable {timing : GestureTiming} {b : Bindings} {target : Target}
variable {last : Option (Nat × Target)} {waiting due : Option Nat} {r : DetectorRun}

/-! ## The balance -/

/-- How often something was reported. -/
def timesReported (r : DetectorRun) (g : Recognition) : Nat :=
  r.log.countP fun x => x.2 = g

/-- The releases on an element that were reported, alone or in pairs, or are deferred. -/
def accounted (target : Target) (r : DetectorRun) : Nat :=
  r.timesReported ⟨.tap, target⟩ + 2 * r.timesReported ⟨.doubleTap, target⟩ +
    if r.detector.timers.isActive (.tap target) then 1 else 0

/-- Of what fires by a time, the deferred tap on an element is what reports a tap on it. -/
theorem filter_firing? {d : Detector} {supply : Option Bindings} {c : Clock}
    (hd : d.isDetached = false) (hf : d.timers.Fresh c) (time : Nat) (target : Target) :
    (((d.timers.due time).filterMap (d.firing? supply)).filter fun x => x.2 = ⟨.tap, target⟩) =
      tapReport target ((d.timers.deadline? (.tap target)).filter (· ≤ time)) := by
  have hother : ∀ e ∈ d.timers.pending, e.value.1 ≠ .tap target →
      (if e.due ≤ time then (d.firing? supply e).filter fun x => x.2 = ⟨.tap, target⟩
        else none) = none := by
    intro e _ hne
    rw [Detector.firing?, hd]
    cases hslot : e.value.1 with
    | tap tapped =>
      have htapped : tapped ≠ target := fun heq => hne (by rw [hslot, heq])
      simp [htapped]
    | hold =>
      dsimp only
      split
      · cases d.target <;> simp
      · simp
  rw [List.filter_filterMap, Timers.due_eq_filter, List.filterMap_filter]
  simp only [decide_eq_true_eq]
  rw [Timers.filterMap_eq_of_slot hf.slots (.tap target) _ hother, tapReport, Timers.deadline?]
  cases hfind : d.timers.pending.find? fun e => e.value.1 = .tap target with
  | none => rfl
  | some e =>
    have hslot : e.value.1 = .tap target := by simpa using List.find?_some hfind
    by_cases hle : e.due ≤ time <;> simp [hle, Detector.firing?, hd, hslot, Option.filter_some]

theorem not_firing_doubleTap {d : Detector} {supply : Option Bindings}
    {es : List (Scheduled (Slot × Unit))} :
    ∀ x ∈ es.filterMap (d.firing? supply), x.2 ≠ ⟨.doubleTap, target⟩ := by
  intro x hx
  obtain ⟨e, -, he⟩ := List.mem_filterMap.1 hx
  unfold Detector.firing? at he
  split at he
  · exact absurd he nofun
  · split at he
    · simp only [Option.some.injEq] at he
      simp [← he]
    · split at he
      · obtain ⟨t, -, rfl⟩ := Option.map_eq_some_iff.1 he
        simp
      · exact absurd he nofun

/-- A deferred tap that fires is reported: the balance stays. -/
theorem accounted_settle (hd : r.detector.isDetached = false)
    (h : r.detector.timers.Ready r.clock) {time : Nat} (hnow : r.clock.now ≤ time) :
    accounted target (r.settle time) = accounted target r := by
  have htaps : (r.settle time).timesReported ⟨.tap, target⟩ =
      r.timesReported ⟨.tap, target⟩ + (tapReport target
        ((r.detector.timers.deadline? (.tap target)).filter (· ≤ time))).length := by
    have hcount := List.countP_eq_length_filter (p := fun x => decide (x.2 = ⟨.tap, target⟩))
      (l := (r.detector.timers.due time).filterMap (r.detector.firing? r.supply))
    rw [filter_firing? hd h.toFresh] at hcount
    rw [settle_eq h hnow, timesReported, List.countP_append, hcount]
    rfl
  have hdoubles : (r.settle time).timesReported ⟨.doubleTap, target⟩ =
      r.timesReported ⟨.doubleTap, target⟩ := by
    have hnone : List.countP (fun x => decide (x.2 = ⟨.doubleTap, target⟩))
        ((r.detector.timers.due time).filterMap (r.detector.firing? r.supply)) = 0 := by
      rw [List.countP_eq_zero]
      intro x hx
      simpa using not_firing_doubleTap x hx
    rw [settle_eq h hnow, timesReported, List.countP_append, hnone]
    rfl
  have hactive : (r.settle time).detector.timers.isActive (.tap target) =
      ((r.detector.timers.deadline? (.tap target)).filter (time < ·)).isSome := by
    rw [settle_eq h hnow, Timers.isActive_eq, Detector.afterFiring, h.toFresh.deadline?_after]
  rw [accounted, accounted, htaps, hdoubles, hactive, Timers.isActive_eq]
  cases r.detector.timers.deadline? (.tap target) with
  | none => rfl
  | some due =>
    by_cases hle : due ≤ time
    · have hlt : ¬ time < due := Nat.not_lt_of_le hle
      simp [tapReport, Option.filter_some, hle, hlt]
      omega
    · have hlt : time < due := Nat.lt_of_not_le hle
      simp [tapReport, Option.filter_some, hle, hlt]

/-! ## Detectors that defer taps -/

/-- A run in which only taps are waited for: the last tap of all is `last`, and the one on the
element that is deferred is due at the time `due`. -/
structure Defers (timing : GestureTiming) (b : Bindings) (target : Target)
    (last : Option (Nat × Target)) (due : Option Nat) (r : DetectorRun) : Prop extends
    r.Configured timing b where
  ready : r.detector.timers.Ready r.clock
  noTimer : r.detector.timers.deadline? .hold = none
  isHold_eq : r.detector.isHold = false
  lastTap_eq : r.detector.lastTap = last
  due_eq : r.detector.timers.deadline? (.tap target) = due
  /-- Nothing is deferred for longer than a window. -/
  due_le : ∀ e ∈ r.detector.timers.pending, e.due ≤ r.clock.now + timing.window

theorem Defers.settle (h : r.Defers timing b target last due) {time : Nat}
    (hnow : r.clock.now ≤ time) :
    (r.settle time).Defers timing b target last (due.filter (time < ·)) := by
  have hf := h.ready.toFresh
  have hfires : Detector.holdFires (r.detector.timers.due time) = false := by
    rw [holdFires_due hf, h.noTimer]
    rfl
  have hready := (settled_settle h.ready hnow).ready
  rw [settle_eq h.ready hnow] at hready ⊢
  refine ⟨⟨h.timing_eq, h.mode_eq, h.attached, ?_⟩, hready, ?_, ?_, h.lastTap_eq, ?_, ?_⟩
  · exact (Detector.bound_afterFiring ..).trans h.bound_eq
  · rw [Detector.afterFiring, hf.deadline?_after, h.noTimer]
    rfl
  · rw [Detector.afterFiring, hfires, h.isHold_eq]
    rfl
  · rw [Detector.afterFiring, hf.deadline?_after, h.due_eq]
  · intro e he
    have hle := h.due_le e (List.mem_of_mem_filter (Timers.pending_after _ _ ▸ he))
    exact hle.trans (Nat.add_le_add_right hnow _)

theorem Defers.timers_cancel (h : r.Defers timing b target last due) :
    r.detector.timers.cancel .hold = r.detector.timers :=
  Timers.cancel_of_none h.noTimer

/-- What is no release changes neither what is deferred nor what was reported. -/
theorem Defers.begun (h : r.Defers timing b target last due) (hb : b.hold = false)
    {s : DetectorStep} (hs : s.keepsBindings = true)
    (hup : ∀ released, s ≠ .input (.up released)) :
    (r.begun s).Defers timing b target last due ∧ (r.begun s).log = r.log := by
  have habandon : ({ r with detector := r.detector.abandon } : DetectorRun).Defers timing b target
      last due := by
    have hd : r.detector.abandon = { r.detector with start := none, isHold := false } := by
      rw [Detector.abandon, h.timers_cancel]
    rw [hd]
    exact ⟨⟨h.timing_eq, h.mode_eq, h.attached, h.bound_eq⟩, h.ready, h.noTimer, rfl,
      h.lastTap_eq, h.due_eq, h.due_le⟩
  rcases s with i | b' | delay
  · cases i with
    | down pressed p =>
      have hact : r.begun (.input (.down pressed p)) =
          { r with detector := r.detector.pressed r.supply pressed p } := by
        have hdown := Detector.down_of_attached (c := r.clock) h.attached r.supply pressed p
        rw [if_neg (by simp [h.bound_eq, hb])] at hdown
        rw [begun_down, hdown]
      rw [hact]
      have hbound := (r.detector.getD_bound r.supply).trans h.bound_eq
      exact ⟨⟨⟨h.timing_eq, h.mode_eq, h.attached, hbound⟩, h.ready, h.noTimer, rfl,
        h.lastTap_eq, h.due_eq, h.due_le⟩, rfl⟩
    | move p =>
      have hpend : r.detector.holdPending = false := by
        rw [Detector.holdPending, Timers.isActive_eq, h.noTimer]
        rfl
      have hact : r.begun (.input (.move p)) = r := by
        refine (reported_none _).trans ?_
        rw [Detector.move_of_not_pending hpend]
      rw [hact]
      exact ⟨h, rfl⟩
    | up released => exact absurd rfl (hup released)
    | cancel =>
      rw [show r.begun (.input .cancel) = _ from reported_none _]
      exact ⟨habandon, rfl⟩
    | leave =>
      rw [show r.begun (.input .leave) = _ from reported_none _]
      exact ⟨habandon, rfl⟩
    | detach => cases hs
    | setBindings b' => cases hs
  · cases hs
  · exact ⟨h, rfl⟩

theorem Defers.completesDoubleTap_eq (h : r.Defers timing b target last due)
    (hb : b.doubleTap = true) (released : Target) :
    (r.detector.released r.supply).completesDoubleTap r.clock.now released =
      isSecondTap timing.window last r.clock.now released := by
  simp only [Detector.released, Detector.completesDoubleTap, h.lastTap_eq, h.timing_eq, h.bound_eq,
    hb, Bool.true_and]
  rfl

/-- A release that is half of a double tap. -/
theorem Defers.begun_second (h : r.Defers timing b target last due) (hb : b.doubleTap = true)
    {released : Target} (hsecond : isSecondTap timing.window last r.clock.now released = true) :
    r.begun (.input (.up released)) =
      { r with
        detector := { r.detector.released r.supply with
          lastTap := none
          timers := r.detector.timers.cancel (.tap released) }
        log := r.log ++ [(r.clock.now, ⟨.doubleTap, released⟩)] } := by
  have hdouble := (h.completesDoubleTap_eq hb released).trans hsecond
  have hhold : (r.detector.released r.supply).isHold = false := h.isHold_eq
  have hrelease := Detector.release_up h.attached r.supply r.clock released
  rw [begun_up]
  generalize r.detector.up r.supply r.clock released = out at hrelease ⊢
  cases hrelease with
  | doubleTap =>
    rw [h.timers_cancel, ← hhold]
    rfl
  | _ hother => cases hdouble.symm.trans hother

/-- Another release. -/
theorem Defers.begun_short (h : r.Defers timing b target last due) (htap : b.tap = true)
    (hb : b.doubleTap = true) {released : Target}
    (hsecond : isSecondTap timing.window last r.clock.now released = false) :
    r.begun (.input (.up released)) =
      { r with
        detector := { r.detector.released r.supply with
          lastTap := some (r.clock.now, released)
          timers := r.detector.timers.start r.clock (.tap released) timing.window () }
        clock := r.clock.tick } := by
  have hdouble := (h.completesDoubleTap_eq hb released).trans hsecond
  have hhold : (r.detector.released r.supply).isHold = false := h.isHold_eq
  have hrelease := Detector.release_up h.attached r.supply r.clock released
  rw [begun_up]
  generalize r.detector.up r.supply r.clock released = out at hrelease ⊢
  cases hrelease with
  | doubleTap hother => cases hdouble.symm.trans hother
  | afterHold _ hother | hold _ hother => cases h.isHold_eq.symm.trans hother
  | unbound _ _ hother => cases htap.symm.trans (h.bound_eq ▸ hother)
  | tap _ _ _ hother => cases hb.symm.trans (h.bound_eq ▸ hother)
  | deferred =>
    rw [reported_none, h.timers_cancel, h.timing_eq, ← hhold]

/-- What a step leaves to be waited for, and that the timers it fires keep the balance. -/
theorem Defers.step (hr : r.Settled) {s : DetectorStep}
    (h : (r.begun s).Defers timing b target last due) :
    (r.step s).Defers timing b target last (due.filter ((r.step s).clock.now < ·)) ∧
      accounted target (r.step s) = accounted target (r.begun s) := by
  have hnow : (r.begun s).clock.now ≤ r.clock.now + s.delay :=
    (ready_begun hr s).2 ▸ Nat.le_add_right _ _
  rw [hr.clock_step, hr.step_eq_settle]
  exact ⟨h.settle hnow, accounted_settle h.attached h.ready hnow⟩

theorem Defers.accounted_eq (h : r.Defers timing b target last due) :
    accounted target r = r.timesReported ⟨.tap, target⟩ +
      2 * r.timesReported ⟨.doubleTap, target⟩ + if due.isSome then 1 else 0 := by
  rw [accounted, Timers.isActive_eq, h.due_eq]

/-- A double tap takes the deferred tap on its element. -/
theorem Defers.second (h : r.Defers timing b target last due) (hb : b.doubleTap = true)
    {released : Target} (hsecond : isSecondTap timing.window last r.clock.now released = true) :
    (r.begun (.input (.up released))).Defers timing b target none
        (if released = target then none else due) ∧
      accounted target (r.begun (.input (.up released))) + (if released = target ∧ due.isSome
        then 1 else 0) = accounted target r + if released = target then 2 else 0 := by
  have hbound := (r.detector.getD_bound r.supply).trans h.bound_eq
  have hd : (r.begun (.input (.up released))).Defers timing b target none
      (if released = target then none else due) := by
    rw [h.begun_second hb hsecond]
    refine ⟨⟨h.timing_eq, h.mode_eq, h.attached, hbound⟩, h.ready.cancel _,
      (Timers.deadline?_cancel_of_ne (by simp)).trans h.noTimer, h.isHold_eq, rfl, ?_,
      fun e he => h.due_le e (List.mem_of_mem_filter he)⟩
    by_cases ht : released = target
    · rw [if_pos ht, ht]
      exact Timers.deadline?_cancel_self _ _
    · rw [if_neg ht]
      exact (Timers.deadline?_cancel_of_ne (by simpa using Ne.symm ht)).trans h.due_eq
  refine ⟨hd, ?_⟩
  rw [hd.accounted_eq, h.accounted_eq, h.begun_second hb hsecond, timesReported, timesReported]
  by_cases ht : released = target
  · cases due <;> simp [ht, timesReported] <;> omega
  · simp [ht, timesReported]

/-- A tap is deferred, in place of the tap on its element that is. -/
theorem Defers.short (h : r.Defers timing b target last due) (htap : b.tap = true)
    (hb : b.doubleTap = true) {released : Target}
    (hsecond : isSecondTap timing.window last r.clock.now released = false) :
    (r.begun (.input (.up released))).Defers timing b target (some (r.clock.now, released))
        (if released = target then some (r.clock.now + timing.window) else due) ∧
      accounted target (r.begun (.input (.up released))) + (if released = target ∧ due.isSome
        then 1 else 0) = accounted target r + if released = target then 1 else 0 := by
  have hbound := (r.detector.getD_bound r.supply).trans h.bound_eq
  have hf := h.ready.toFresh
  have hd : (r.begun (.input (.up released))).Defers timing b target
      (some (r.clock.now, released))
      (if released = target then some (r.clock.now + timing.window) else due) := by
    rw [h.begun_short htap hb hsecond]
    refine ⟨⟨h.timing_eq, h.mode_eq, h.attached, hbound⟩, h.ready.start _ _ _,
      (hf.deadline?_start_of_ne (by simp) _ _).trans h.noTimer, h.isHold_eq, rfl, ?_, ?_⟩
    · by_cases ht : released = target
      · rw [if_pos ht, ht]
        exact hf.deadline?_start_self _ _ _
      · rw [if_neg ht]
        exact (hf.deadline?_start_of_ne (by simpa using Ne.symm ht) _ _).trans h.due_eq
    · intro e he
      rcases Timers.mem_pending_start.1 he with rfl | ⟨he, -⟩
      · exact Nat.le_refl _
      · exact h.due_le e he
  refine ⟨hd, ?_⟩
  rw [hd.accounted_eq, h.accounted_eq, h.begun_short htap hb hsecond]
  by_cases ht : released = target
  · cases due <;> simp [ht, timesReported]
  · simp [ht, timesReported]

/-! ## Runs -/

/-- A run between two steps: the tap on the element that is deferred, if its window has not passed,
was at the time `waiting`. -/
structure Counts (timing : GestureTiming) (b : Bindings) (target : Target)
    (last : Option (Nat × Target)) (waiting : Option Nat) (r : DetectorRun) : Prop where
  settled : r.Settled
  defers : r.Defers timing b target last
    ((waiting.map (· + timing.window)).filter (r.clock.now < ·))
  waiting_le : ∀ time ∈ waiting, time ≤ r.clock.now
  /-- If the last tap of all was on the element, it is the one that is deferred. -/
  waiting_of_last : ∀ time, last = some (time, target) → waiting = some time

theorem Counts.isSome_due (h : r.Counts timing b target last waiting) :
    ((waiting.map (· + timing.window)).filter (r.clock.now < ·)).isSome =
      waiting.any (r.clock.now - · < timing.window) := by
  cases hw : waiting with
  | none => rfl
  | some time =>
    have hle : time ≤ r.clock.now := h.waiting_le time hw
    have hiff : r.clock.now < time + timing.window ↔ r.clock.now - time < timing.window := by omega
    by_cases hlt : r.clock.now - time < timing.window
    · simp [Option.filter_some, hlt, hiff.2 hlt]
    · simp [Option.filter_some, hlt, mt hiff.1 hlt]

theorem Counts.step_other (h : r.Counts timing b target last waiting) (hb : b.hold = false)
    {s : DetectorStep} (hs : s.keepsBindings = true)
    (hup : ∀ released, s ≠ .input (.up released)) :
    (r.step s).Counts timing b target last waiting ∧
      accounted target (r.step s) = accounted target r := by
  have hnow := h.settled.clock_step s
  obtain ⟨hbegun, hlog⟩ := h.defers.begun hb hs hup
  obtain ⟨hstep, haccounted⟩ := hbegun.step h.settled
  rw [filter_lt_filter_lt _ (by omega)] at hstep
  refine ⟨⟨h.settled.step s, hstep, fun time ht => ?_, h.waiting_of_last⟩, ?_⟩
  · have := h.waiting_le time ht
    omega
  · rw [haccounted, hbegun.accounted_eq, h.defers.accounted_eq, timesReported, timesReported, hlog]
    rfl

/-- What is deferred after a release, on the element or another. -/
theorem defers_release (new : Option Nat) {released : Target} {now : Nat} (hnow : r.clock.now = now)
    (h : r.Defers timing b target last
      ((if released = target then new.map (· + timing.window)
        else (waiting.map (· + timing.window)).filter (now < ·)).filter (r.clock.now < ·))) :
    r.Defers timing b target last
      (((if released = target then new else waiting).map (· + timing.window)).filter
        (r.clock.now < ·)) := by
  by_cases ht : released = target
  · simpa [ht] using h
  · rw [if_neg ht, filter_lt_filter_lt _ hnow.ge] at h
    simpa [ht] using h

/-- A double tap is accounted for, the tap that it pairs with being the one that is deferred. -/
theorem Counts.step_second (h : r.Counts timing b target last waiting) (hb : b.doubleTap = true)
    {released : Target} (hsecond : isSecondTap timing.window last r.clock.now released = true) :
    (r.step (.input (.up released))).Counts timing b target none
        (if released = target then none else waiting) ∧
      accounted target (r.step (.input (.up released))) =
        accounted target r + if released = target then 1 else 0 := by
  have hnow : (r.step (.input (.up released))).clock.now = r.clock.now :=
    h.settled.clock_step (.input (.up released))
  obtain ⟨hbegun, hcount⟩ := h.defers.second hb hsecond
  obtain ⟨hstep, haccounted⟩ := hbegun.step h.settled
  refine ⟨⟨h.settled.step _, defers_release none hnow hstep, ?_, nofun⟩, ?_⟩
  · rw [hnow]
    split
    · nofun
    · exact h.waiting_le
  · rw [haccounted]
    by_cases ht : released = target
    · obtain ⟨⟨time, tapped⟩, hlast, hpair⟩ := (Option.any_eq_true _ _).1 hsecond
      simp only [Bool.and_eq_true, beq_iff_eq, decide_eq_true_eq] at hpair
      obtain ⟨rfl, hwindow⟩ := hpair
      have hwaiting := h.waiting_of_last time (ht ▸ hlast)
      have hsome : waiting.any (r.clock.now - · < timing.window) = true := by
        simpa [hwaiting] using hwindow
      rw [h.isSome_due, hsome] at hcount
      simp only [ht, and_self, if_true] at hcount ⊢
      omega
    · simp only [ht, false_and, if_false] at hcount ⊢
      omega

/-- A tap is accounted for, or replaces the one on its element that is deferred. -/
theorem Counts.step_short (h : r.Counts timing b target last waiting) (htap : b.tap = true)
    (hb : b.doubleTap = true) {released : Target}
    (hsecond : isSecondTap timing.window last r.clock.now released = false) :
    (r.step (.input (.up released))).Counts timing b target (some (r.clock.now, released))
        (if released = target then some r.clock.now else waiting) ∧
      accounted target (r.step (.input (.up released))) +
          (if released = target ∧ waiting.any (r.clock.now - · < timing.window) then 1 else 0) =
        accounted target r + if released = target then 1 else 0 := by
  have hnow : (r.step (.input (.up released))).clock.now = r.clock.now :=
    h.settled.clock_step (.input (.up released))
  obtain ⟨hbegun, hcount⟩ := h.defers.short htap hb hsecond
  obtain ⟨hstep, haccounted⟩ := hbegun.step h.settled
  refine ⟨⟨h.settled.step _, defers_release (some r.clock.now) hnow hstep, ?_, ?_⟩, ?_⟩
  · rw [hnow]
    split
    · rintro time ⟨⟩
      exact Nat.le_refl _
    · exact h.waiting_le
  · intro time hlast
    obtain ⟨rfl, rfl⟩ := Prod.mk.inj (Option.some.inj hlast)
    exact if_pos rfl
  · rw [haccounted, ← h.isSome_due]
    exact hcount

/-- A release is accounted for, or replaces a tap that was. -/
theorem Counts.step_up (h : r.Counts timing b target last waiting) (htap : b.tap = true)
    (hb : b.doubleTap = true) (released : Target) :
    ∃ last' waiting', (r.step (.input (.up released))).Counts timing b target last' waiting' ∧
      ∀ rest, accounted target (r.step (.input (.up released))) +
          replacedTaps timing.window target last waiting ((r.clock.now, released) :: rest) =
        accounted target r + (if released = target then 1 else 0) +
          replacedTaps timing.window target last' waiting' rest := by
  cases hsecond : isSecondTap timing.window last r.clock.now released with
  | true =>
    obtain ⟨hcounts, haccounted⟩ := h.step_second hb hsecond
    refine ⟨_, _, hcounts, fun rest => ?_⟩
    rw [replacedTaps, if_pos hsecond, haccounted]
  | false =>
    obtain ⟨hcounts, haccounted⟩ := h.step_short htap hb hsecond
    refine ⟨_, _, hcounts, fun rest => ?_⟩
    rw [replacedTaps, if_neg (by simp [hsecond]), ← haccounted]
    by_cases ht : released = target
    · simp only [ht, true_and, if_true]
      omega
    · simp only [ht, false_and, if_false]
      omega

end DetectorRun

namespace DetectorStep

theorem releases_cons_other (now : Nat) {s : DetectorStep} (steps : List DetectorStep)
    (hup : ∀ released, s ≠ .input (.up released)) :
    releases now (s :: steps) = releases (now + s.delay) steps := by
  rcases s with i | b | delay
  · cases i with
    | up released => exact absurd rfl (hup released)
    | _ => rfl
  · rfl
  · rfl

theorem isRelease_other {s : DetectorStep} (target : Target)
    (hup : ∀ released, s ≠ .input (.up released)) : s.isRelease target = false := by
  rcases s with i | b | delay
  · cases i with
    | up released => exact absurd rfl (hup released)
    | _ => rfl
  · rfl
  · rfl

end DetectorStep

namespace DetectorRun

variable {timing : GestureTiming} {b : Bindings} {target : Target}
variable {last : Option (Nat × Target)} {waiting : Option Nat} {r : DetectorRun}

/-- A run accounts for all releases except the taps that it replaces. -/
theorem Counts.run (h : r.Counts timing b target last waiting) (hb : b = ⟨true, false, true⟩)
    (steps : List DetectorStep) (hsteps : ∀ s ∈ steps, s.keepsBindings = true) :
    ∃ last' waiting', (r.run steps).Counts timing b target last' waiting' ∧
      accounted target (r.run steps) + replacedTaps timing.window target last waiting
          (DetectorStep.releases r.clock.now steps) =
        accounted target r + steps.countP (·.isRelease target) := by
  induction steps generalizing r last waiting with
  | nil => exact ⟨last, waiting, h, rfl⟩
  | cons s steps ih =>
    have hrest : ∀ x ∈ steps, x.keepsBindings = true :=
      fun x hx => hsteps x (List.mem_cons_of_mem _ hx)
    by_cases hup : ∃ released, s = .input (.up released)
    · obtain ⟨released, rfl⟩ := hup
      obtain ⟨last₁, waiting₁, hstep, hcount⟩ := h.step_up (by rw [hb]) (by rw [hb]) released
      obtain ⟨last', waiting', hrun, hbalance⟩ := ih hstep hrest
      have hnow : (r.step (.input (.up released))).clock.now = r.clock.now :=
        h.settled.clock_step (.input (.up released))
      have hcount := hcount (DetectorStep.releases r.clock.now steps)
      rw [hnow] at hbalance
      refine ⟨last', waiting', hrun, ?_⟩
      rw [DetectorStep.releases, List.countP_cons, DetectorStep.isRelease]
      change accounted target ((r.step (.input (.up released))).run steps) + _ = _
      simp only [decide_eq_true_eq]
      omega
    · have hother : ∀ released, s ≠ .input (.up released) :=
        fun released heq => hup ⟨released, heq⟩
      have hkeeps := hsteps s List.mem_cons_self
      obtain ⟨hstep, hcount⟩ := h.step_other (by rw [hb]) hkeeps hother
      obtain ⟨last', waiting', hrun, hbalance⟩ := ih hstep hrest
      rw [h.settled.clock_step] at hbalance
      refine ⟨last', waiting', hrun, ?_⟩
      rw [DetectorStep.releases_cons_other _ _ hother,
        List.countP_cons_of_neg (by simp [DetectorStep.isRelease_other target hother]), ← hcount]
      exact hbalance

theorem counts_untouched (timing : GestureTiming) (bindings : Bindings)
    (supply : Option Bindings) (clock : Clock) (target : Target) :
    (untouched timing .onRelease bindings supply clock).Counts timing (supply.getD bindings) target
      none none where
  settled := settled_untouched ..
  defers := ⟨⟨rfl, rfl, rfl, rfl⟩, .empty clock, rfl, rfl, rfl, rfl,
    by simp [untouched, Timers.pending, Agenda.empty]⟩
  waiting_le := nofun
  waiting_of_last := nofun

/-- Once nothing is pending, everything that is accounted for was reported. -/
theorem accounted_of_pending (h : r.detector.timers.pending = []) :
    accounted target r =
      r.timesReported ⟨.tap, target⟩ + 2 * r.timesReported ⟨.doubleTap, target⟩ := by
  rw [accounted, Timers.isActive, h]
  rfl

/-- A while as long as the window leaves nothing pending. -/
theorem Counts.pending_sleep (h : r.Counts timing b target last waiting) {wait : Nat}
    (hwait : timing.window ≤ wait) : (r.step (.sleep wait)).detector.timers.pending = [] := by
  rw [h.settled.detector_step, Detector.afterFiring, Timers.pending_after, List.filter_eq_nil_iff]
  intro e he
  have hle : e.due ≤ r.clock.now + timing.window := h.defers.due_le e he
  have hlate : ¬ r.clock.now + wait < e.due := by omega
  exact fun hdue => hlate (of_decide_eq_true hdue)

/-- Once nothing is pending, which is so as soon as a window has passed, the releases on an element
are its taps, twice its double taps, and the taps that were replaced before they were reported. None
are if no other element is released between two releases on it within one window. -/
theorem releases_accounted (timing : GestureTiming) (bindings : Bindings)
    (supply : Option Bindings) (clock : Clock) (steps : List DetectorStep) (target : Target)
    (hb : supply.getD bindings = ⟨true, false, true⟩)
    (hsteps : ∀ s ∈ steps, s.keepsBindings = true) :
    let r := (untouched timing .onRelease bindings supply clock).run steps
    let replaced := replacedTaps timing.window target none none
      (DetectorStep.releases clock.now steps)
    (r.detector.timers.pending = [] → steps.countP (·.isRelease target) =
        r.timesReported ⟨.tap, target⟩ + 2 * r.timesReported ⟨.doubleTap, target⟩ + replaced) ∧
      (∀ wait, timing.window ≤ wait → (r.step (.sleep wait)).detector.timers.pending = [] ∧
        steps.countP (·.isRelease target) =
          (r.step (.sleep wait)).timesReported ⟨.tap, target⟩ +
            2 * (r.step (.sleep wait)).timesReported ⟨.doubleTap, target⟩ + replaced) ∧
      (StaysOn timing.window target (DetectorStep.releases clock.now steps) → replaced = 0) := by
  intro r replaced
  have hcounts := counts_untouched timing bindings supply clock target
  obtain ⟨last, waiting, hrun, hbalance⟩ := hcounts.run hb steps hsteps
  have hnone : accounted target (untouched timing .onRelease bindings supply clock) = 0 := rfl
  have hbalance : accounted target r + replaced = steps.countP (·.isRelease target) := by
    rw [hnone, Nat.zero_add] at hbalance
    exact hbalance
  refine ⟨fun hnil => ?_, fun wait hwait => ?_, replacedTaps_eq_zero⟩
  · rw [← hbalance, accounted_of_pending hnil]
  · have hnil := hrun.pending_sleep hwait
    obtain ⟨-, hsame⟩ : (r.step (.sleep wait)).Counts timing (supply.getD bindings) target last
        waiting ∧ accounted target (r.step (.sleep wait)) = accounted target r :=
      hrun.step_other (by rw [hb]) rfl nofun
    refine ⟨hnil, ?_⟩
    rw [← hbalance, ← hsame, accounted_of_pending hnil]

/-- A double tap on one element, and taps on two elements in turn, one of which is replaced. -/
theorem releases_accounted_in_turn :
    let press := fun target : Target =>
      [DetectorStep.input (.down target ⟨0, 0⟩), .input (.up target), .sleep 10]
    let steps := press "lamp" ++ press "lamp" ++ press "lamp" ++ press "door" ++ press "lamp"
    let r := (untouched {} .onRelease ⟨true, false, true⟩ none {}).run steps
    steps.countP (·.isRelease "lamp") = 4 ∧
      4 = (r.step (.sleep 250)).timesReported ⟨.tap, "lamp"⟩ +
        2 * (r.step (.sleep 250)).timesReported ⟨.doubleTap, "lamp"⟩ + 1 := by
  intro press steps r
  have hcount : steps.countP (·.isRelease "lamp") = 4 := by decide
  have hreplaced : replacedTaps 250 "lamp" none none (DetectorStep.releases 0 steps) = 1 := by
    decide
  obtain ⟨-, hlater, -⟩ := releases_accounted {} ⟨true, false, true⟩ none {} steps "lamp" rfl
    (by decide)
  have hbalance := (hlater 250 (Nat.le_refl _)).2
  rw [hcount, show replacedTaps _ _ _ _ _ = 1 from hreplaced] at hbalance
  exact ⟨hcount, hbalance⟩

/-- Of two taps on an element with a tap on another between them, one is never reported. -/
theorem tap_replaced :
    let steps : List DetectorStep :=
      [.input (.down "lamp" ⟨0, 0⟩), .input (.up "lamp"), .sleep 10,
        .input (.down "door" ⟨0, 0⟩), .input (.up "door"), .sleep 10,
        .input (.down "lamp" ⟨0, 0⟩), .input (.up "lamp"), .sleep 500]
    let r := (untouched {} .onRelease ⟨true, false, true⟩ none {}).run steps
    r.detector.timers.pending = [] ∧ steps.countP (·.isRelease "lamp") = 2 ∧
      r.timesReported ⟨.tap, "lamp"⟩ = 1 ∧ r.timesReported ⟨.doubleTap, "lamp"⟩ = 0 := by
  intro steps r
  refine ⟨?_, ?_, ?_, ?_⟩ <;> decide +kernel

end DetectorRun

end NavigationBar
