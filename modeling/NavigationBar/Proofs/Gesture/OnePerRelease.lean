import NavigationBar.Proofs.Gesture.CountedTaps

/-!
# One gesture for a release

Where holds are reported at the release, every release earns one report at most: it is answered at
once, or defers a tap that is reported later, or neither. So the reports and the deferred taps
together are never more than the releases, whoever presses where and whatever is bound meanwhile.
A release that is answered with a double tap takes away the deferred tap on its element, and only
another release on this element can defer a tap there again.

Both follow from what a release does to the timers (`Detector.up_cases`).
-/

namespace NavigationBar

/-- Whether the pointer is released. -/
def DetectorStep.isUp : DetectorStep → Bool
  | input (.up _) => true
  | _ => false

/-! ## What a release does to the timers -/

namespace Detector

variable {d : Detector} {c : Clock} {supply : Option Bindings} {target : Target}

/-- A release that is a double tap takes the deferred tap on its element; any other is answered at
once, if at all, or defers a tap. -/
theorem up_cases (h : d.isDetached = false) (supply : Option Bindings) (c : Clock)
    (target : Target) :
    ((d.up supply c target).1.timers = (d.timers.cancel .hold).cancel (.tap target) ∧
        (d.up supply c target).2.2 = some ⟨.doubleTap, target⟩) ∨
      ((d.up supply c target).1.timers = d.timers.cancel .hold ∧
        ∀ g ∈ (d.up supply c target).2.2, g = ⟨.hold, target⟩ ∨ g = ⟨.tap, target⟩) ∨
      ((d.up supply c target).1.timers =
          (d.timers.cancel .hold).start c (.tap target) d.timing.window () ∧
        (d.up supply c target).2.2 = none) := by
  have hrelease := release_up h supply c target
  generalize d.up supply c target = out at hrelease ⊢
  cases hrelease with
  | doubleTap => exact .inl ⟨rfl, rfl⟩
  | deferred => exact .inr (.inr ⟨rfl, rfl⟩)
  | hold | tap => exact .inr (.inl ⟨rfl, by simp⟩)
  | afterHold | unbound => exact .inr (.inl ⟨rfl, nofun⟩)

/-! ## The number of deferred taps -/

/-- How many taps some timers defer. -/
def taps (es : List (Scheduled (Slot × Unit))) : Nat :=
  es.countP fun e => e.value.1 ≠ .hold

/-- How many taps a detector defers. -/
def deferredTaps (d : Detector) : Nat :=
  taps d.timers.pending

theorem taps_cancel_le (t : Timers Slot Unit) (slot : Slot) :
    taps (t.cancel slot).pending ≤ taps t.pending :=
  List.Sublist.countP_le List.filter_sublist

theorem taps_start (t : Timers Slot Unit) (slot : Slot) (delay : Nat) :
    taps (t.start c slot delay ()).pending =
      taps (t.cancel slot).pending + if slot = .hold then 0 else 1 := by
  rw [taps, (Timers.perm_pending_start t c slot delay ()).countP_eq, List.countP_cons, taps]
  by_cases hslot : slot = .hold <;> simp [hslot]

/-- A release answers or defers one gesture at most. -/
theorem deferredTaps_up (d : Detector) (supply : Option Bindings) (c : Clock) (target : Target) :
    (d.up supply c target).2.2.toList.length + (d.up supply c target).1.deferredTaps ≤
      d.deferredTaps + 1 := by
  cases hd : d.isDetached with
  | true => simp [up, hd]
  | false =>
    have hhold := taps_cancel_le d.timers .hold
    have htap := taps_cancel_le (d.timers.cancel .hold) (.tap target)
    rw [deferredTaps, deferredTaps]
    rcases up_cases hd supply c target with ⟨ht, hr⟩ | ⟨ht, hr⟩ | ⟨ht, hr⟩
    · rw [ht, hr, Option.toList_some, List.length_singleton]
      omega
    · have hone : (d.up supply c target).2.2.toList.length ≤ 1 := Option.length_toList_le
      rw [ht]
      omega
    · rw [ht, hr, taps_start, if_neg (by simp), Option.toList_none, List.length_nil]
      omega

/-- Any other input answers nothing and defers nothing. -/
theorem deferredTaps_handle (d : Detector) (supply : Option Bindings) (c : Clock) {i : Input}
    (hi : (DetectorStep.input i).isUp = false) :
    (d.handle supply c i).2.2 = none ∧ (d.handle supply c i).1.deferredTaps ≤ d.deferredTaps := by
  have hcancel := taps_cancel_le d.timers .hold
  cases i with
  | down target p =>
    refine ⟨rfl, ?_⟩
    cases hd : d.isDetached with
    | true => simp [handle, down, hd]
    | false =>
      simp only [handle, down_of_attached hd]
      split
      · simpa [deferredTaps, taps_start] using hcancel
      · exact Nat.le_refl _
  | move p =>
    refine ⟨rfl, ?_⟩
    rcases d.move_eq_or p with hmove | hmove <;> simp only [handle, hmove]
    · exact Nat.le_refl _
    · exact hcancel
  | up target => simp [DetectorStep.isUp] at hi
  | cancel => exact ⟨rfl, hcancel⟩
  | leave => exact ⟨rfl, hcancel⟩
  | detach => exact ⟨rfl, Nat.zero_le _⟩
  | setBindings b => exact ⟨rfl, Nat.le_refl _⟩

/-- Without a release no tap is deferred that was not before. -/
theorem tap_of_handle {i : Input} (hi : (DetectorStep.input i).isUp = false)
    {e : Scheduled (Slot × Unit)} (he : e ∈ (d.handle supply c i).1.timers.pending)
    (hslot : e.value.1 = .tap target) : e ∈ d.timers.pending := by
  have hcancel : e ∈ (d.timers.cancel .hold).pending → e ∈ d.timers.pending :=
    List.mem_of_mem_filter
  cases i with
  | down pressed p =>
    cases hd : d.isDetached with
    | true => simpa [handle, down, hd] using he
    | false =>
      simp only [handle, down_of_attached hd] at he
      split at he
      · rcases Timers.mem_pending_start.1 he with rfl | ⟨he, -⟩
        · simp at hslot
        · exact he
      · exact he
  | move p =>
    rcases d.move_eq_or p with hmove | hmove <;> rw [handle, hmove] at he
    · exact he
    · exact hcancel he
  | up released => simp [DetectorStep.isUp] at hi
  | cancel => exact hcancel he
  | leave => exact hcancel he
  | detach => exact absurd he List.not_mem_nil
  | setBindings b => exact he

/-- A release on another element neither reports a tap nor defers one. -/
theorem tap_of_up (d : Detector) (supply : Option Bindings) (c : Clock) {released : Target}
    (hne : released ≠ target) :
    (d.up supply c released).2.2 ≠ some ⟨.tap, target⟩ ∧
      ∀ e ∈ (d.up supply c released).1.timers.pending, e.value.1 = .tap target →
        e ∈ d.timers.pending := by
  have hcancel : ∀ e, e ∈ (d.timers.cancel .hold).pending → e ∈ d.timers.pending :=
    fun e => List.mem_of_mem_filter
  cases hd : d.isDetached with
  | true =>
    rw [up, if_pos hd]
    exact ⟨by simp, fun e he _ => he⟩
  | false =>
    rcases up_cases hd supply c released with ⟨ht, hr⟩ | ⟨ht, hr⟩ | ⟨ht, hr⟩
    · rw [ht, hr]
      exact ⟨by simp, fun e he _ => hcancel e (List.mem_of_mem_filter he)⟩
    · rw [ht]
      refine ⟨fun hg => ?_, fun e he _ => hcancel e he⟩
      rcases hr _ hg with h | h
      · simp at h
      · exact hne (Recognition.mk.inj h).2.symm
    · rw [ht, hr]
      refine ⟨by simp, fun e he hslot => ?_⟩
      rcases Timers.mem_pending_start.1 he with rfl | ⟨he, -⟩
      · exact absurd (Slot.tap.inj hslot) hne
      · exact hcancel e he

/-- Of the timers that fire, those of deferred taps report one tap each at most. -/
theorem length_filterMap_firing?_le (h : d.mode = .onRelease) (supply : Option Bindings)
    (es : List (Scheduled (Slot × Unit))) :
    (es.filterMap (d.firing? supply)).length ≤ taps es := by
  rw [List.length_filterMap_eq_countP, taps]
  refine List.countP_mono_left fun e _ he => ?_
  cases hslot : e.value.1 with
  | tap target => rfl
  | hold => simp [firing?, hslot, h] at he

end Detector

/-! ## Reports and deferred taps -/

namespace DetectorRun

variable {r : DetectorRun} {target : Target}

/-- The gestures that were reported and the taps that are deferred. -/
def earned (r : DetectorRun) : Nat :=
  r.log.length + r.detector.deferredTaps

/-- A run in the middle of a step: its input is handled, and `count` of the timers that are due in
this step have fired. -/
def amid (r : DetectorRun) (s : DetectorStep) (count : Nat) : DetectorRun :=
  (((r.begun s).detector.timers.due (r.clock.now + s.delay)).take count).foldl wake (r.begun s)

/-- In the end all of them have fired. -/
theorem Settled.step_eq_amid (h : r.Settled) (s : DetectorStep) {count : Nat}
    (hcount : ((r.begun s).detector.timers.due (r.clock.now + s.delay)).length ≤ count) :
    r.step s = { r.amid s count with
      clock := (r.amid s count).clock.advance (r.clock.now + s.delay) } := by
  rw [h.step_eq_settle, amid, List.take_of_length_le hcount]
  rfl

/-- A step is a release, or it is answered with nothing. -/
theorem answer?_cases (r : DetectorRun) (s : DetectorStep) :
    (∃ target, s = .input (.up target) ∧
        r.answer? s = (r.detector.up r.supply r.clock target).2.2 ∧
        (r.begun s).detector = (r.detector.up r.supply r.clock target).1) ∨
      (s.isUp = false ∧ r.answer? s = none ∧
        (r.begun s).detector.deferredTaps ≤ r.detector.deferredTaps) := by
  rcases s with i | b | delay
  · cases hi : (DetectorStep.input i).isUp with
    | false => exact .inr ⟨rfl, r.detector.deferredTaps_handle r.supply r.clock hi⟩
    | true =>
      cases i with
      | up target => exact .inl ⟨target, rfl, rfl, rfl⟩
      | _ => simp [DetectorStep.isUp] at hi
  · exact .inr ⟨rfl, rfl, Nat.le_refl _⟩
  · exact .inr ⟨rfl, rfl, Nat.le_refl _⟩

theorem earned_begun (r : DetectorRun) (s : DetectorStep) :
    (r.begun s).earned ≤ r.earned + if s.isUp then 1 else 0 := by
  rw [earned, earned, log_begun, List.length_append, Option.toList_map, List.length_map]
  rcases r.answer?_cases s with ⟨target, rfl, hanswer, hbegun⟩ | ⟨hs, hanswer, hle⟩
  · have hone := r.detector.deferredTaps_up r.supply r.clock target
    rw [hanswer, hbegun, DetectorStep.isUp, if_pos rfl]
    omega
  · rw [hanswer, hs, Option.toList_none, List.length_nil]
    omega

/-- A timer that fires reports what it deferred, at most. -/
theorem Settled.earned_amid_le (h : r.Settled) (hmode : r.detector.mode = .onRelease)
    (s : DetectorStep) (count : Nat) : (r.amid s count).earned ≤ (r.begun s).earned := by
  obtain ⟨hready, hnow⟩ := ready_begun h s
  have hdue := Timers.due_append_pending_after (r.begun s).detector.timers (r.clock.now + s.delay)
  have hmode' : (r.begun s).detector.mode = .onRelease := (settings_begun r s).2.trans hmode
  rw [amid]
  generalize hes : ((r.begun s).detector.timers.due (r.clock.now + s.delay)) = due at hdue ⊢
  generalize hr : r.begun s = r' at *
  have hsplit : r'.detector.timers.pending = due.take count ++ (due.drop count ++
      (r'.detector.timers.after (r.clock.now + s.delay)).pending) := by
    rw [← List.append_assoc, List.take_append_drop, hdue]
  have hmem : ∀ e ∈ due.take count, r'.clock.now ≤ e.due ∧ e.due ≤ r.clock.now + s.delay := by
    intro e he
    have he := List.mem_of_mem_take he
    rw [← hes, Timers.due_eq_filter] at he
    simp only [List.mem_filter, decide_eq_true_eq] at he
    exact ⟨hready.notPast e he.1, he.2⟩
  have hordered := r'.detector.timers.agenda.ordered
  rw [show r'.detector.timers.agenda.entries = _ from hsplit, List.pairwise_append] at hordered
  obtain ⟨now, -, heq⟩ := foldl_wake (r.clock.now + s.delay) (due.take count) _ r' hsplit
    hready.toFresh (by omega) hmem ⟨⟨_, hordered.2.1⟩⟩ rfl
  have hpending : r'.detector.deferredTaps = Detector.taps (due.take count) +
      Detector.taps (due.drop count ++
        (r'.detector.timers.after (r.clock.now + s.delay)).pending) := by
    rw [Detector.deferredTaps, hsplit, Detector.taps, List.countP_append]
    rfl
  have hreports := Detector.length_filterMap_firing?_le hmode' r'.supply (due.take count)
  rw [heq, earned, earned, List.length_append, hpending]
  simp only [Detector.deferredTaps, Detector.afterFiring, Timers.pending]
  omega

theorem earned_run (h : r.Settled) (hmode : r.detector.mode = .onRelease)
    (steps : List DetectorStep) : (r.run steps).earned ≤ r.earned + steps.countP (·.isUp) := by
  induction steps generalizing r with
  | nil => exact Nat.le_refl _
  | cons s steps ih =>
    have hone := earned_begun r s
    have hstep : (r.step s).earned ≤ (r.begun s).earned := by
      rw [h.step_eq_amid s (Nat.le_refl _)]
      exact h.earned_amid_le hmode s _
    have hrest := ih (h.step s) ((h.settings_run [s]).2.trans hmode)
    rw [List.countP_cons]
    change ((r.step s).run steps).earned ≤ _
    omega

/-! ## After a double tap -/

/-- Whether a tap on an element is deferred. -/
def defersTap (r : DetectorRun) (target : Target) : Prop :=
  ∃ e ∈ r.detector.timers.pending, e.value.1 = .tap target

theorem Settled.log_step_reports (h : r.Settled) (s : DetectorStep) :
    (r.step s).log = r.log ++ r.reports s := by
  rw [h.log_step, log_begun, h.reports_eq, (ready_begun h s).2, List.append_assoc]

/-- A tap is reported late only if it was deferred. -/
theorem defersTap_of_firing {time due : Nat}
    (h : (time, ⟨.tap, target⟩) ∈
      (r.detector.timers.due due).filterMap (r.detector.firing? r.supply)) :
    r.defersTap target := by
  obtain ⟨e, he, hfire⟩ := List.mem_filterMap.1 h
  refine ⟨e, (List.takeWhile_sublist _).subset he, ?_⟩
  unfold Detector.firing? at hfire
  cases hslot : e.value.1 with
  | tap tapped => simp_all
  | hold =>
    simp only [hslot] at hfire
    split at hfire
    · exact absurd hfire nofun
    · split at hfire
      · obtain ⟨t, -, ht⟩ := Option.map_eq_some_iff.1 hfire
        simp at ht
      · exact absurd hfire nofun

theorem not_defersTap_step (h : r.Settled) {s : DetectorStep}
    (hbegun : ¬ (r.begun s).defersTap target) : ¬ (r.step s).defersTap target := by
  rintro ⟨e, he, hslot⟩
  rw [h.detector_step, Detector.afterFiring] at he
  exact hbegun ⟨e, (List.dropWhile_sublist _).subset he, hslot⟩

/-- Only a release on an element defers a tap there, or reports one at once. -/
theorem begun_of_other_release {s : DetectorStep} (hn : ¬ r.defersTap target)
    (hs : s ≠ .input (.up target)) :
    ¬ (r.begun s).defersTap target ∧ r.answer? s ≠ some ⟨.tap, target⟩ := by
  rcases r.answer?_cases s with ⟨released, rfl, hanswer, hbegun⟩ | ⟨hup, hanswer, -⟩
  · have hne : released ≠ target := fun heq => hs (by rw [heq])
    obtain ⟨hno, htap⟩ := r.detector.tap_of_up r.supply r.clock hne
    unfold defersTap
    rw [hanswer, hbegun]
    exact ⟨fun ⟨e, he, hslot⟩ => hn ⟨e, htap e he hslot, hslot⟩, hno⟩
  · rw [hanswer]
    refine ⟨?_, by simp⟩
    rintro ⟨e, he, hslot⟩
    refine hn ⟨e, ?_, hslot⟩
    rcases s with i | b | delay
    · exact Detector.tap_of_handle hup he hslot
    · exact he
    · exact he

/-- Without a release on an element where no tap is deferred, none is reported there. -/
theorem Settled.log_run_of_other_releases (h : r.Settled) (hn : ¬ r.defersTap target)
    (more : List DetectorStep) (hmore : .input (.up target) ∉ more) :
    ∃ l, (r.run more).log = r.log ++ l ∧ ∀ x ∈ l, x.2 ≠ ⟨.tap, target⟩ := by
  induction more generalizing r with
  | nil => exact ⟨[], (List.append_nil _).symm, nofun⟩
  | cons s more ih =>
    rw [List.mem_cons, not_or] at hmore
    obtain ⟨hbegun, hanswer⟩ := begun_of_other_release hn (Ne.symm hmore.1)
    obtain ⟨l, hlog, hl⟩ := ih (h.step s) (not_defersTap_step h hbegun) hmore.2
    refine ⟨r.reports s ++ l, ?_, fun x hx => ?_⟩
    · change ((r.step s).run more).log = _
      rw [hlog, h.log_step_reports, List.append_assoc]
    · rcases List.mem_append.1 hx with hx | hx
      · rw [h.reports_eq, List.mem_append] at hx
        rintro hg
        rcases hx with hx | hx
        · rw [Option.mem_toList, Option.map_eq_some_iff] at hx
          obtain ⟨g, hg', rfl⟩ := hx
          exact hanswer (hg'.trans (by rw [← hg]))
        · obtain ⟨time, g⟩ := x
          obtain rfl : g = _ := hg
          exact hbegun (defersTap_of_firing hx)
      · exact hl x hx

/-- A double tap is reported as the answer to a release on its element, which leaves no tap deferred
there. -/
theorem Settled.begun_of_doubleTap (h : r.Settled) {s : DetectorStep} {time : Nat}
    (hs : (time, ⟨.doubleTap, target⟩) ∈ r.reports s) :
    s = .input (.up target) ∧ r.answer? s = some ⟨.doubleTap, target⟩ ∧ time = r.clock.now ∧
      ¬ (r.begun s).defersTap target := by
  rw [h.reports_eq, List.mem_append, Option.mem_toList, Option.map_eq_some_iff] at hs
  rcases hs with ⟨g, hg, heq⟩ | hfired
  · obtain ⟨rfl, rfl⟩ := Prod.mk.inj heq
    rcases r.answer?_cases s with ⟨released, rfl, hanswer, hbegun⟩ | ⟨-, hanswer, -⟩
    · unfold defersTap
      rw [hbegun]
      rw [hanswer] at hg ⊢
      cases hd : r.detector.isDetached with
      | true => simp [Detector.up, hd] at hg
      | false =>
        rcases Detector.up_cases hd r.supply r.clock released with ⟨ht, hr⟩ | ⟨-, hr⟩ | ⟨-, hr⟩
        · obtain ⟨-, rfl⟩ := Recognition.mk.inj (Option.some.inj (hr.symm.trans hg))
          refine ⟨rfl, hg, rfl, ?_⟩
          rintro ⟨e, he, hslot⟩
          rw [ht] at he
          simpa [hslot] using (List.mem_filter.1 he).2
        · rcases hr _ hg with hg | hg <;> simp at hg
        · simp [hr] at hg
    · simp [hanswer] at hg
  · exact absurd rfl (not_firing_doubleTap _ hfired)

/-! ## Runs -/

/-- Where holds are reported at the release, the gestures that were reported and the taps that are
deferred are never more than the releases so far, after every step and in the middle of one. Once a
double tap on an element is reported, no tap on it is reported before the pointer is released on it
again. -/
theorem reports_le_releases (timing : GestureTiming) (bindings : Bindings)
    (supply : Option Bindings) (clock : Clock) (steps : List DetectorStep) :
    let r := (untouched timing .onRelease bindings supply clock).run steps
    r.log.length + r.detector.deferredTaps ≤ steps.countP (·.isUp) ∧
    (∀ s count, (r.amid s count).log.length + (r.amid s count).detector.deferredTaps ≤
      (steps ++ [s]).countP (·.isUp)) ∧
    ∀ s time target more, (time, ⟨.doubleTap, target⟩) ∈ r.reports s →
      .input (.up target) ∉ more →
      ∃ l, ((r.step s).run more).log = r.log ++ (time, ⟨.doubleTap, target⟩) :: l ∧
        ∀ x ∈ l, x.2 ≠ ⟨.tap, target⟩ := by
  intro r
  have hs := settled_untouched timing .onRelease bindings supply clock
  have hr : r.Settled := hs.run steps
  have hmode : r.detector.mode = .onRelease := (hs.settings_run steps).2
  have hearned : r.earned ≤ steps.countP (·.isUp) := by
    have := earned_run hs rfl steps
    rwa [show (untouched timing .onRelease bindings supply clock).earned = 0 from rfl,
      Nat.zero_add] at this
  refine ⟨hearned, fun s count => ?_, fun s time target more hdouble hmore => ?_⟩
  · have hone := earned_begun r s
    have hamid := hr.earned_amid_le hmode s count
    rw [List.countP_append, List.countP_singleton]
    change (r.amid s count).earned ≤ _
    omega
  · obtain ⟨rfl, hanswer, rfl, hbegun⟩ := hr.begun_of_doubleTap hdouble
    obtain ⟨l, hlog, hl⟩ := (hr.step _).log_run_of_other_releases
      (not_defersTap_step hr hbegun) more hmore
    rw [hr.log_step_reports, hr.reports_eq, hanswer] at hlog
    refine ⟨_ ++ l, by simpa using hlog, fun x hx => ?_⟩
    rcases List.mem_append.1 hx with hx | hx
    · rintro hg
      obtain ⟨time, g⟩ := x
      obtain rfl : g = _ := hg
      exact hbegun (defersTap_of_firing hx)
    · exact hl x hx

/-- A tap waits on one element while another is tapped twice, and is released once more. -/
theorem reports_le_releases_two_elements :
    let steps : List DetectorStep :=
      [.input (.up "door"), .sleep 10, .input (.down "lamp" ⟨0, 0⟩), .input (.up "lamp"), .sleep 10]
    let r := (untouched {} .onRelease ⟨true, false, true⟩ none {}).run steps
    r.log.length + r.detector.deferredTaps ≤ 2 ∧
      (20, ⟨.doubleTap, "lamp"⟩) ∈ r.reports (.input (.up "lamp")) ∧
      ∃ l, ((r.step (.input (.up "lamp"))).run [.input (.up "door"), .sleep 500]).log =
          r.log ++ (20, ⟨.doubleTap, "lamp"⟩) :: l ∧
        ∀ x ∈ l, x.2 ≠ ⟨.tap, "lamp"⟩ := by
  intro steps r
  have hdouble : (20, ⟨.doubleTap, "lamp"⟩) ∈ r.reports (.input (.up "lamp")) := by
    decide +kernel
  obtain ⟨hcount, -, hafter⟩ := reports_le_releases {} ⟨true, false, true⟩ none {} steps
  exact ⟨hcount, hdouble, hafter _ 20 "lamp" [.input (.up "door"), .sleep 500] hdouble (by simp)⟩

end DetectorRun

end NavigationBar
