import NavigationBar.Proofs.Gesture.EarnedHolds
import NavigationBar.Proofs.Gesture.Presses

/-!
# Releases of holds that were reported

A detector that reports holds at once marks the press as a hold, so that its release is not reported
again. The mark is read after the second half of a double tap is told apart, and it is lost when the
pointer leaves or is taken away; these are the two ways in which a press can be reported twice. The
first needs a window that is longer than the hold delay, because the hold timer is started after the
tap that would be the first half.
-/

namespace NavigationBar

/-- A release is remembered as a tap, or makes the detector forget the last one. -/
theorem Detector.lastTap_up {d : Detector} (hd : d.isDetached = false) (supply : Option Bindings)
    (c : Clock) (target : Target) :
    (d.up supply c target).1.lastTap = none ∨
      (d.up supply c target).1.lastTap = some (c.now, target) := by
  have hrelease := release_up hd supply c target
  generalize d.up supply c target = out at hrelease ⊢
  cases hrelease with
  | doubleTap | afterHold | hold => exact .inl rfl
  | unbound | deferred | tap => exact .inr rfl

namespace DetectorRun

variable {r : DetectorRun} {isHeld : Bool}

/-! ## Taps before the hold timer -/

/-- The last tap came before the hold timer was started. -/
structure TapFirst (r : DetectorRun) : Prop where
  tap_le : ∀ l ∈ r.detector.lastTap, l.1 ≤ r.clock.now
  pending : ∀ due, r.detector.timers.deadline? .hold = some due →
    ∀ l ∈ r.detector.lastTap, l.1 + r.detector.timing.hold ≤ due

theorem tapFirst_of_none (h : r.detector.lastTap = none) : r.TapFirst where
  tap_le l hl := by simp [h] at hl
  pending due _ l hl := by simp [h] at hl

/-- Nothing but the hold timer can go. -/
theorem TapFirst.keep (h : r.TapFirst) {r' : DetectorRun} (hnow : r.clock.now ≤ r'.clock.now)
    (hlast : r'.detector.lastTap = r.detector.lastTap)
    (htiming : r'.detector.timing = r.detector.timing)
    (htimer : ∀ due, r'.detector.timers.deadline? .hold = some due →
      r.detector.timers.deadline? .hold = some due) : r'.TapFirst where
  tap_le l hl := (h.tap_le l (hlast ▸ hl)).trans hnow
  pending due hdue l hl := by
    rw [htiming]
    exact h.pending due (htimer due hdue) l (hlast ▸ hl)

/-- A press starts the hold timer, if at all, after the last tap. -/
theorem TapFirst.down (h : r.TapFirst) (hs : r.Settled)
    (hd : r.detector.isDetached = false) (target : Target) (p : Point) :
    (r.begun (.input (.down target p))).TapFirst := by
  have hnow := (ready_begun hs (.input (.down target p))).2
  have hdown := congrArg Prod.fst (Detector.down_of_attached (c := r.clock) hd r.supply target p)
  by_cases hb : (r.detector.bound r.supply).hold = true
  · rw [if_pos hb] at hdown
    have hstart := hs.ready.toFresh.deadline?_start_self .hold r.detector.timing.hold ()
    refine ⟨fun l hl => ?_, fun due hdue l hl => ?_⟩
    · rw [begun_down, hdown] at hl
      rw [hnow]
      exact h.tap_le l hl
    · rw [begun_down, hdown] at hl hdue ⊢
      obtain rfl := Option.some.inj (hdue.symm.trans hstart)
      exact Nat.add_le_add_right (h.tap_le l hl) _
  · rw [if_neg hb] at hdown
    refine h.keep hnow.ge ?_ ?_ ?_ <;> rw [begun_down, hdown]
    · rfl
    · rfl
    · exact fun due hdue => hdue

theorem TapFirst.begun (h : r.TapFirst) (hs : r.Settled)
    (hatt : r.detector.isDetached = false ∨ r.detector.Retired) (s : DetectorStep) :
    (r.begun s).TapFirst := by
  have hnow := (ready_begun hs s).2
  have hcancel : ∀ due, (r.detector.timers.cancel .hold).deadline? .hold = some due →
      r.detector.timers.deadline? .hold = some due := by
    intro due hdue
    rw [Timers.deadline?_cancel_self] at hdue
    cases hdue
  rcases s with i | b | delay
  · rcases hatt with hd | hr
    · cases i with
      | down target p => exact h.down hs hd target p
      | move p =>
        have hdet : (r.begun (.input (.move p))).detector = r.detector.move p := rfl
        rcases r.detector.move_eq_or p with hmove | hmove <;> rw [hmove] at hdet
        · exact h.keep hnow.ge (by rw [hdet]) (by rw [hdet]) (by rw [hdet]; exact fun _ => id)
        · exact h.keep hnow.ge (by rw [hdet]) (by rw [hdet]) (by rw [hdet]; exact hcancel)
      | up target =>
        have htimer := (Detector.up_hold hd hs.ready.toFresh r.supply target).1
        have hlast := Detector.lastTap_up hd r.supply r.clock target
        refine ⟨fun l hl => ?_, fun due hdue => ?_⟩
        · rw [hnow]
          rcases hlast with hlast | hlast
          · cases hlast.symm.trans hl
          · obtain rfl := Option.some.inj (hlast.symm.trans hl)
            exact Nat.le_refl _
        · cases htimer.symm.trans hdue
      | cancel => exact h.keep hnow.ge rfl rfl hcancel
      | leave => exact h.keep hnow.ge rfl rfl hcancel
      | detach => exact tapFirst_of_none rfl
      | setBindings b => exact h.keep hnow.ge rfl rfl fun _ => id
    · exact tapFirst_of_none (hr.handle r.supply r.clock i).1.lastTap_eq
  · exact h.keep hnow.ge rfl rfl fun _ => id
  · exact h

theorem tapFirst_run (h : r.TapFirst) (hs : r.Settled)
    (hatt : r.detector.isDetached = false ∨ r.detector.Retired) (steps : List DetectorStep) :
    (r.run steps).TapFirst := by
  induction steps using List.reverseRecOn with
  | nil => exact h
  | append_singleton steps s ih =>
    have hrs := hs.run steps
    have hbegun := ih.begun hrs (attached_or_retired_run hs hatt steps) s
    have hnow := hrs.clock_step s
    obtain ⟨hready, hbegan⟩ := ready_begun hrs s
    rw [run_concat]
    refine hbegun.keep (by omega) ?_ ?_ ?_ <;> rw [hrs.detector_step]
    · rfl
    · rfl
    · intro due hdue
      have hafter := (hready.toFresh.deadline?_after _ _).symm.trans hdue
      exact (Option.filter_eq_some_iff.1 hafter).1

/-! ## From the report to the release -/

/-- A step neither reports anything nor changes what the detector waits for. -/
def IsSilent (r : DetectorRun) (s : DetectorStep) : Prop :=
  r.reports s = [] ∧ (r.step s).detector.timers = r.detector.timers

/-- Between the report of a hold and the next press: `isHeld` tells whether the mark is still there.
-/
structure AfterHold (isHeld : Bool) (r : DetectorRun) : Prop where
  settled : r.Settled
  attached : r.detector.isDetached = false
  mode_eq : r.detector.mode = .onTimer
  noTimer : r.detector.timers.deadline? .hold = none
  isHold_eq : r.detector.isHold = isHeld
  tap_le : ∀ l ∈ r.detector.lastTap, l.1 + r.detector.timing.hold ≤ r.clock.now

theorem holdFires_eq_false {t : Timers Slot Unit} {c : Clock} (hf : t.Fresh c)
    (h : t.deadline? .hold = none) (time : Nat) : Detector.holdFires (t.due time) = false := by
  rw [holdFires_due hf, h]
  rfl

/-- The hold timer reports a hold and leaves its mark. -/
theorem afterHold_of_report {s : DetectorStep} {time : Nat} {target : Target} (hs : r.Settled)
    (hatt : r.detector.isDetached = false ∨ r.detector.Retired) (hmode : r.detector.mode = .onTimer)
    (htap : r.TapFirst) (h : (time, ⟨.hold, target⟩) ∈ r.reports s) :
    AfterHold true (r.step s) := by
  have hfresh := (ready_begun hs s).1.toFresh
  have hdet := hs.detector_step s
  rw [hs.reports_eq, List.mem_append, Option.mem_toList, Option.map_eq_some_iff] at h
  rcases h with ⟨g, hg, heq⟩ | hfired
  · obtain ⟨-, rfl⟩ := Prod.mk.inj heq
    have hrelease := (exists_up_of_answer hatt hg).2.2
    rw [hmode] at hrelease
    cases hrelease
  · obtain ⟨hfires, -, hbound⟩ := holdFires_of_report hfired
    have hheld : (r.step s).detector.isHold = true := by
      rw [hdet, Detector.afterFiring, hfires, hbound]
      simp
    rw [holdFires_due hfresh, Option.any_eq_true] at hfires
    obtain ⟨due, hdue, hle⟩ := hfires
    have hle : due ≤ r.clock.now + s.delay := of_decide_eq_true hle
    refine ⟨hs.step s, ?_, ?_, ?_, hheld, ?_⟩
    · rcases attached_or_retired_step hs hatt s with hd | hr
      · exact hd
      · cases hr.isHold_eq.symm.trans hheld
    · rw [hdet]
      exact (settings_begun r s).2.trans hmode
    · rw [hdet, Detector.afterFiring, hfresh.deadline?_after, hdue, Option.filter_some,
        if_neg (by simpa using hle)]
    · intro l hl
      rw [hs.clock_step]
      rw [hdet] at hl ⊢
      exact ((htap.begun hs hatt s).pending due hdue l hl).trans hle

/-- An interlude takes the mark away only if the pointer leaves or is taken away. -/
theorem AfterHold.interlude (h : r.AfterHold isHeld) (i : Interlude) :
    (r.step i.step).AfterHold (isHeld && !i.abandons) := by
  have hfresh := (ready_begun h.settled i.step).1.toFresh
  have hpend : r.detector.holdPending = false := by
    rw [Detector.holdPending, Timers.isActive_eq, h.noTimer]
    rfl
  have hbegun : (r.begun i.step).detector.isDetached = false ∧
      (r.begun i.step).detector.timers.deadline? .hold = none ∧
      (r.begun i.step).detector.isHold = (isHeld && !i.abandons) ∧
      (r.begun i.step).detector.lastTap = r.detector.lastTap := by
    cases i with
    | move p =>
      have hmove : (r.begun (Interlude.move p).step).detector = r.detector :=
        Detector.move_of_not_pending hpend p
      rw [hmove]
      exact ⟨h.attached, h.noTimer, by simp [h.isHold_eq, Interlude.abandons], rfl⟩
    | leave =>
      exact ⟨h.attached, Timers.deadline?_cancel_self _ _, (Bool.and_false isHeld).symm, rfl⟩
    | cancel =>
      exact ⟨h.attached, Timers.deadline?_cancel_self _ _, (Bool.and_false isHeld).symm, rfl⟩
    | sleep delay =>
      exact ⟨h.attached, h.noTimer, h.isHold_eq.trans (Bool.and_true isHeld).symm, rfl⟩
  obtain ⟨hd, htimer, hhold, hlast⟩ := hbegun
  have htiming := (settings_begun r i.step).1
  refine ⟨h.settled.step _, ?_, ?_, ?_, ?_, ?_⟩ <;> rw [h.settled.detector_step]
  · exact hd
  · exact (settings_begun r i.step).2.trans h.mode_eq
  · rw [Detector.afterFiring, hfresh.deadline?_after, htimer]
    rfl
  · rw [Detector.afterFiring, holdFires_eq_false hfresh htimer, hhold]
    exact Bool.or_false _
  · intro l hl
    have hle := h.tap_le l (hlast ▸ hl)
    rw [h.settled.clock_step]
    change l.1 + (r.begun i.step).detector.timing.hold ≤ _
    rw [htiming]
    omega

theorem AfterHold.interludes (h : r.AfterHold isHeld) (rest : List Interlude) :
    (r.run (rest.map Interlude.step)).AfterHold (isHeld && !rest.any Interlude.abandons) := by
  induction rest generalizing r isHeld with
  | nil => simpa [run] using h
  | cons i rest ih =>
    have hi := ih (h.interlude i)
    rwa [Bool.and_assoc, ← Bool.not_or, ← List.any_cons] at hi

/-! ## The release -/

theorem AfterHold.timers_cancel (h : r.AfterHold isHeld) :
    r.detector.timers.cancel .hold = r.detector.timers :=
  Timers.cancel_of_none h.noTimer

/-- A release that leaves the timers alone reports its answer only. -/
theorem Settled.reports_up (hs : r.Settled) {target : Target}
    (ht : (r.detector.up r.supply r.clock target).1.timers = r.detector.timers) :
    r.reports (.input (.up target)) =
        ((r.detector.up r.supply r.clock target).2.2.map fun g => (r.clock.now, g)).toList ∧
      (r.step (.input (.up target))).detector.timers = r.detector.timers := by
  have hbegun : (r.begun (.input (.up target))).detector.timers = r.detector.timers := ht
  have hdue : (r.begun (.input (.up target))).detector.timers.due (r.clock.now + 0) = [] := by
    rw [hbegun, Nat.add_zero, hs.due_now]
  refine ⟨?_, ?_⟩
  · rw [hs.reports_eq, DetectorStep.delay_input, hdue, List.filterMap_nil, List.append_nil]
    rfl
  · rw [hs.detector_step, Detector.afterFiring, hbegun, DetectorStep.delay_input,
      Nat.add_zero, hs.after_now]

theorem Settled.reports_ne_nil (hs : r.Settled) {s : DetectorStep} {g : Recognition}
    (h : r.answer? s = some g) : r.reports s ≠ [] := by
  rw [hs.reports_eq, h]
  simp

/-- A tap that is deferred now is waited for, or is reported at once. -/
theorem Settled.not_isSilent_start (hs : r.Settled) {s : DetectorStep} {target : Target}
    {delay : Nat} {t : Timers Slot Unit} (hd : (r.begun s).detector.isDetached = false)
    (hstart : (r.begun s).detector.timers = t.start r.clock (.tap target) delay ()) :
    ¬ r.IsSilent s := by
  rintro ⟨hreports, htimers⟩
  let e : Scheduled (Slot × Unit) := ⟨r.clock.now + delay, r.clock.stamp, (.tap target, ())⟩
  have he : e ∈ (r.begun s).detector.timers.pending := by
    rw [hstart, Timers.mem_pending_start]
    exact .inl rfl
  by_cases hdue : r.clock.now + delay ≤ r.clock.now + s.delay
  · have hmem : e ∈ (r.begun s).detector.timers.due (r.clock.now + s.delay) := by
      rw [Timers.due_eq_filter]
      exact List.mem_filter.2 ⟨he, decide_eq_true hdue⟩
    have hreport : (r.clock.now + delay, ⟨.tap, target⟩) ∈
        ((r.begun s).detector.timers.due (r.clock.now + s.delay)).filterMap
          ((r.begun s).detector.firing? (r.begun s).supply) :=
      List.mem_filterMap.2 ⟨_, hmem, by rw [Detector.firing?, hd]; rfl⟩
    rw [hs.reports_eq, List.append_eq_nil_iff] at hreports
    rw [hreports.2] at hreport
    exact absurd hreport List.not_mem_nil
  · have hmem : e ∈ r.detector.timers.pending := by
      rw [← htimers, hs.detector_step, Detector.afterFiring, Timers.pending_after]
      exact List.mem_filter.2 ⟨he, decide_eq_true (Nat.lt_of_not_le hdue)⟩
    exact absurd (hs.ready.stamp_lt _ hmem) (Nat.lt_irrefl _)

/-- The release of a press whose hold was reported is silent unless it is the second half of a
double tap, or the mark is gone and taps are bound. -/
theorem AfterHold.isSilent_up_iff (h : r.AfterHold isHeld) (target : Target) :
    r.IsSilent (.input (.up target)) ↔
      (r.detector.released r.supply).completesDoubleTap r.clock.now target = false ∧
        (isHeld = true ∨ (r.detector.bound r.supply).tap = false) := by
  have hs := h.settled
  have hanswer : r.answer? (.input (.up target)) =
      (r.detector.up r.supply r.clock target).2.2 := rfl
  have hloud : ∀ g, (r.detector.up r.supply r.clock target).2.2 = some g →
      ¬ r.IsSilent (.input (.up target)) :=
    fun g hg hsilent => hs.reports_ne_nil (hanswer.trans hg) hsilent.1
  have hsilent : (r.detector.up r.supply r.clock target).1.timers = r.detector.timers.cancel .hold →
      (r.detector.up r.supply r.clock target).2.2 = none → r.IsSilent (.input (.up target)) := by
    intro htimers hnone
    have hreports := hs.reports_up (htimers.trans h.timers_cancel)
    rwa [hnone] at hreports
  have hdetector : (r.begun (.input (.up target))).detector =
      (r.detector.up r.supply r.clock target).1 := rfl
  have hgone : r.detector.IsShort r.supply → isHeld = false := by
    intro hshort
    rw [← h.isHold_eq, Bool.eq_false_iff]
    intro hhold
    cases h.mode_eq.symm.trans (hshort hhold).1
  have hrelease := Detector.release_up h.attached r.supply r.clock target
  generalize r.detector.up r.supply r.clock target = out at hloud hsilent hdetector hrelease
  cases hrelease with
  | doubleTap hdouble => simpa [hdouble] using hloud _ rfl
  | afterHold hdouble hhold => simpa [hdouble, ← h.isHold_eq, hhold] using hsilent rfl rfl
  | hold _ _ hmode => cases h.mode_eq.symm.trans hmode
  | unbound hdouble _ htap => simpa [hdouble, htap] using hsilent rfl rfl
  | deferred hdouble hshort htap =>
    have hloud := hs.not_isSilent_start ((congrArg _ hdetector).trans h.attached)
      (congrArg Detector.timers hdetector)
    simpa [hdouble, hgone hshort, htap] using hloud
  | tap hdouble hshort htap => simpa [hdouble, hgone hshort, htap] using hloud _ rfl

/-- A window that is no longer than the hold delay is over when the hold is reported. -/
theorem AfterHold.not_completesDoubleTap (h : r.AfterHold isHeld)
    (hwindow : r.detector.timing.window ≤ r.detector.timing.hold) (target : Target) :
    (r.detector.released r.supply).completesDoubleTap r.clock.now target = false := by
  rw [Detector.completesDoubleTap, Bool.and_eq_false_iff, Option.any_eq_false]
  refine .inr fun l hl => ?_
  have hle : l.1 + r.detector.timing.hold ≤ r.clock.now := h.tap_le l hl
  have hlate : ¬ r.clock.now - l.1 < r.detector.timing.window := by omega
  simp [Detector.released, hlate]

/-- Once the hold timer of a press has reported a hold, and whatever moves, leaves, cancels and
passing of time follow, the release reports nothing and defers no tap if and only if it is not the
second half of a double tap, and the pointer neither left nor was taken away unless taps are not
bound. It is the second half of no double tap if the window is no longer than the hold delay. -/
theorem release_silent_iff (timing : GestureTiming) (bindings : Bindings)
    (supply : Option Bindings) (clock : Clock) (steps : List DetectorStep) (s : DetectorStep)
    (time : Nat) (pressed target : Target) (rest : List Interlude)
    (h : (time, ⟨.hold, pressed⟩) ∈
      ((untouched timing .onTimer bindings supply clock).run steps).reports s) :
    let r := (((untouched timing .onTimer bindings supply clock).run steps).step s).run
      (rest.map Interlude.step)
    (r.IsSilent (.input (.up target)) ↔
      (r.detector.released r.supply).completesDoubleTap r.clock.now target = false ∧
        (rest.any Interlude.abandons = false ∨ (r.detector.bound r.supply).tap = false)) ∧
      (timing.window ≤ timing.hold →
        (r.detector.released r.supply).completesDoubleTap r.clock.now target = false) := by
  intro r
  have hs := settled_untouched timing .onTimer bindings supply clock
  have hatt := attached_or_retired_run hs (.inl rfl) steps
  have hmode := (hs.settings_run steps).2
  have htap := tapFirst_run (tapFirst_of_none rfl) hs (.inl rfl) steps
  have hafter := (afterHold_of_report (hs.run steps) hatt hmode htap h).interludes rest
  have htiming : r.detector.timing = timing := by
    have hrun := (hs.settings_run (steps ++ s :: rest.map Interlude.step)).1
    rwa [run_append] at hrun
  refine ⟨?_, fun hwindow => hafter.not_completesDoubleTap (htiming.symm ▸ hwindow) target⟩
  have hiff := hafter.isSilent_up_iff target
  rwa [Bool.true_and, Bool.not_eq_true'] at hiff

/-- A hold on the player, a movement after it, and the release. -/
theorem release_silent_iff_moved :
    let steps : List DetectorStep := [.sleep 3, .input (.down "player" ⟨0, 0⟩)]
    let rest : List Interlude := [.move ⟨30, 0⟩, .sleep 700]
    let r₀ := untouched {} .onTimer ⟨true, true, true⟩ none {}
    let r := ((r₀.run steps).step (.sleep 500)).run (rest.map Interlude.step)
    (503, ⟨.hold, "player"⟩) ∈ (r₀.run steps).reports (.sleep 500) ∧
      r.IsSilent (.input (.up "player")) := by
  intro steps rest r₀ r
  have h : (503, ⟨.hold, "player"⟩) ∈ (r₀.run steps).reports (.sleep 500) := by decide +kernel
  obtain ⟨hiff, hwindow⟩ := release_silent_iff {} ⟨true, true, true⟩ none {} steps (.sleep 500) 503
    "player" "player" rest h
  exact ⟨h, hiff.2 ⟨hwindow (by decide), .inl rfl⟩⟩

/-- After a hold was reported, the pointer leaves and is released: the press is reported as a tap
too. With a window longer than the hold delay, a press after a tap is reported as a double tap too.
-/
theorem reported_twice :
    let left := ((untouched {} .onTimer ⟨true, true, false⟩ none {}).run
      [.input (.down "player" ⟨0, 0⟩)]).step (.sleep 500)
    let timing : GestureTiming := { hold := 100, window := 300 }
    let second := ((untouched timing .onTimer ⟨true, true, true⟩ none {}).run
      [.input (.down "player" ⟨0, 0⟩), .input (.up "player"),
        .input (.down "player" ⟨0, 0⟩)]).step (.sleep 100)
    left.log = [(500, ⟨.hold, "player"⟩)] ∧
      (left.step (.input .leave)).reports (.input (.up "player")) = [(500, ⟨.tap, "player"⟩)] ∧
      second.log = [(100, ⟨.hold, "player"⟩)] ∧
      second.reports (.input (.up "player")) = [(100, ⟨.doubleTap, "player"⟩)] := by
  intro left timing second
  refine ⟨?_, ?_, ?_, ?_⟩ <;> decide +kernel

end DetectorRun

end NavigationBar
