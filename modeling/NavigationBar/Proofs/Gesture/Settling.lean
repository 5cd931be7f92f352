import NavigationBar.Proofs.Gesture.Inputs
import NavigationBar.Proofs.Time.Deadlines

/-!
# What firing timers do to a detector

When time passes, the timers that are due fire one after the other. All of them together remove
themselves, mark the press as a hold if one of them is the hold timer, and report what each of them
reports, at the time at which it is due. Between two steps of a run every pending timer lies in the
future (`DetectorRun.Settled`).
-/

namespace NavigationBar

namespace Detector

/-- What a timer reports when it fires, and when. -/
def firing? (d : Detector) (supply : Option Bindings) (e : Scheduled (Slot × Unit)) :
    Option (Nat × Recognition) :=
  if d.isDetached then none
  else
    match e.value.1 with
    | .tap target => some (e.due, ⟨.tap, target⟩)
    | .hold =>
      if d.mode = .onTimer ∧ (d.bound supply).hold then
        d.target.map fun target => (e.due, ⟨.hold, target⟩)
      else none

/-- Whether the hold timer is among some timers. -/
def holdFires (es : List (Scheduled (Slot × Unit))) : Bool :=
  es.any fun e => e.value.1 = .hold

theorem holdFires_cons (e : Scheduled (Slot × Unit)) (es : List (Scheduled (Slot × Unit))) :
    holdFires (e :: es) = (holdFires [e] || holdFires es) := by
  simp [holdFires]

/-- A detector whose remaining timers are `timers`, after some of its timers fired. -/
def afterFiring (d : Detector) (supply : Option Bindings) (es : List (Scheduled (Slot × Unit)))
    (timers : Timers Slot Unit) : Detector :=
  { d with
    timers
    bindings := if holdFires es then d.bound supply else d.bindings
    isHold := d.isHold || (holdFires es && (d.bound supply).hold) }

theorem wake_fst (d : Detector) (supply : Option Bindings) (e : Scheduled (Slot × Unit)) :
    (d.wake supply e.stamp e.value.1).1 =
      d.afterFiring supply [e] (d.timers.fired e.stamp) := by
  rcases e with ⟨due, stamp, slot, u⟩
  cases slot with
  | tap target => simp [wake, fire, afterFiring, holdFires]
  | hold =>
    by_cases hb : (d.bound supply).hold <;> cases hm : d.mode <;>
      simp_all [wake, fire, afterFiring, holdFires, refresh, bound]

theorem wake_snd (d : Detector) (supply : Option Bindings) (e : Scheduled (Slot × Unit)) :
    ((d.wake supply e.stamp e.value.1).2.map fun g => (e.due, g)) = d.firing? supply e := by
  rcases e with ⟨due, stamp, slot, u⟩
  cases slot with
  | tap target => cases hd : d.isDetached <;> simp [wake, fire, emit, firing?, hd]
  | hold =>
    cases hd : d.isDetached <;> cases ht : d.target <;> by_cases hb : (d.bound supply).hold <;>
      cases hm : d.mode <;> simp_all [wake, fire, emit, firing?, refresh, bound]

theorem bound_afterFiring (d : Detector) (supply : Option Bindings)
    (es : List (Scheduled (Slot × Unit))) (timers : Timers Slot Unit) :
    (d.afterFiring supply es timers).bound supply = d.bound supply := by
  cases supply <;> simp [afterFiring, bound]

theorem firing?_afterFiring (d : Detector) (supply : Option Bindings)
    (es : List (Scheduled (Slot × Unit))) (timers : Timers Slot Unit) :
    (d.afterFiring supply es timers).firing? supply = d.firing? supply := by
  funext e
  unfold firing?
  rw [bound_afterFiring]
  rfl

theorem afterFiring_afterFiring (d : Detector) (supply : Option Bindings)
    (e : Scheduled (Slot × Unit)) (es : List (Scheduled (Slot × Unit)))
    (timers timers' : Timers Slot Unit) :
    (d.afterFiring supply [e] timers).afterFiring supply es timers' =
      d.afterFiring supply (e :: es) timers' := by
  simp only [afterFiring, holdFires_cons e es]
  cases holdFires [e] <;> cases holdFires es <;> cases supply <;> simp [bound]

end Detector

namespace DetectorRun

/-- Between two steps: every pending timer lies in the future. -/
structure Settled (r : DetectorRun) : Prop where
  /-- Nothing is overdue. -/
  ready : r.detector.timers.Ready r.clock
  /-- What is pending fires later. -/
  later : ∀ e ∈ r.detector.timers.pending, r.clock.now < e.due

theorem wake_eq (r : DetectorRun) (e : Scheduled (Slot × Unit)) (h : r.clock.now ≤ e.due) :
    r.wake e =
      { clock := r.clock.advance e.due
        detector := r.detector.afterFiring r.supply [e] (r.detector.timers.fired e.stamp)
        supply := r.supply
        log := r.log ++ (r.detector.firing? r.supply e).toList } := by
  have hmax : max r.clock.now e.due = e.due := Nat.max_eq_right h
  unfold wake reported
  rw [← r.detector.wake_fst r.supply e, ← r.detector.wake_snd r.supply e]
  simp [Clock.advance, hmax]

/-- All timers that are due fire: `es` are those, and `rest` are the ones that stay. -/
theorem foldl_wake (time : Nat) (es rest : List (Scheduled (Slot × Unit))) (r : DetectorRun)
    (hp : r.detector.timers.pending = es ++ rest) (hf : r.detector.timers.Fresh r.clock)
    (hnow : r.clock.now ≤ time) (hes : ∀ e ∈ es, r.clock.now ≤ e.due ∧ e.due ≤ time)
    (timers : Timers Slot Unit) (ht : timers.pending = rest) :
    ∃ now ≤ time, es.foldl wake r =
      { clock := { r.clock with now }
        detector := r.detector.afterFiring r.supply es timers
        supply := r.supply
        log := r.log ++ es.filterMap (r.detector.firing? r.supply) } := by
  induction es generalizing r with
  | nil =>
    have : timers = r.detector.timers := Timers.eq_of_pending (by rw [ht, hp]; rfl)
    refine ⟨r.clock.now, hnow, ?_⟩
    simp [this, Detector.afterFiring, Detector.holdFires]
  | cons e es ih =>
    obtain ⟨he, hle⟩ := hes e List.mem_cons_self
    have hfired := hf.pending_fired_head hp
    have hadv : r.clock.advance e.due = { r.clock with now := e.due } := by
      simp [Clock.advance, Nat.max_eq_right he]
    have hsorted := r.detector.timers.agenda.ordered
    rw [show r.detector.timers.agenda.entries = e :: (es ++ rest) from hp,
      List.pairwise_cons] at hsorted
    have hes' : ∀ x ∈ es, e.due ≤ x.due ∧ x.due ≤ time := by
      intro x hx
      have hex := hsorted.1 x (List.mem_append_left _ hx)
      have hxt := (hes x (List.mem_cons_of_mem _ hx)).2
      unfold Scheduled.NotAfter at hex
      omega
    have hfresh : (r.detector.timers.fired e.stamp).Fresh { r.clock with now := e.due } :=
      (hf.fired e.stamp).of_stamp_eq rfl
    rw [List.foldl_cons, wake_eq r e he, hadv]
    obtain ⟨now, hle', heq⟩ := ih
      { clock := { r.clock with now := e.due }
        detector := r.detector.afterFiring r.supply [e] (r.detector.timers.fired e.stamp)
        supply := r.supply
        log := r.log ++ (r.detector.firing? r.supply e).toList }
      hfired hfresh hle hes'
    refine ⟨now, hle', ?_⟩
    rw [heq, Detector.afterFiring_afterFiring, Detector.firing?_afterFiring]
    cases hfe : r.detector.firing? r.supply e <;> simp [hfe]

/-- What a run is when the clock has moved to a time. -/
theorem settle_eq {r : DetectorRun} {time : Nat} (h : r.detector.timers.Ready r.clock)
    (hnow : r.clock.now ≤ time) :
    r.settle time =
      { clock := { r.clock with now := time }
        detector := r.detector.afterFiring r.supply (r.detector.timers.due time)
          (r.detector.timers.after time)
        supply := r.supply
        log := r.log ++
          (r.detector.timers.due time).filterMap (r.detector.firing? r.supply) } := by
  have hes : ∀ e ∈ r.detector.timers.due time, r.clock.now ≤ e.due ∧ e.due ≤ time := by
    intro e he
    rw [Timers.due_eq_filter] at he
    simp only [List.mem_filter, decide_eq_true_eq] at he
    exact ⟨h.notPast e he.1, he.2⟩
  obtain ⟨now, hle, heq⟩ := foldl_wake time _ _ r
    (Timers.due_append_pending_after r.detector.timers time).symm h.toFresh hnow hes _ rfl
  rw [settle, heq]
  simp [Clock.advance, Nat.max_eq_right hle]

theorem settled_settle {r : DetectorRun} {time : Nat} (h : r.detector.timers.Ready r.clock)
    (hnow : r.clock.now ≤ time) : (r.settle time).Settled := by
  have hlater : ∀ e ∈ (r.detector.timers.after time).pending, time < e.due := by
    intro e he
    rw [Timers.pending_after] at he
    simpa using (List.mem_filter.1 he).2
  rw [settle_eq h hnow]
  exact ⟨⟨(h.toFresh.after time).of_stamp_eq rfl, fun e he => Nat.le_of_lt (hlater e he)⟩, hlater⟩

theorem Settled.due_now {r : DetectorRun} (h : r.Settled) :
    r.detector.timers.due r.clock.now = [] := by
  rw [Timers.due_eq_filter, List.filter_eq_nil_iff]
  intro e he
  have := h.later e he
  simp only [decide_eq_true_eq]
  omega

theorem Settled.after_now {r : DetectorRun} (h : r.Settled) :
    r.detector.timers.after r.clock.now = r.detector.timers := by
  refine Timers.eq_of_pending ?_
  have := Timers.due_append_pending_after r.detector.timers r.clock.now
  rwa [h.due_now, List.nil_append] at this

/-- Nothing fires as long as the clock stands still. -/
theorem Settled.settle_now {r : DetectorRun} (h : r.Settled) : r.settle r.clock.now = r := by
  rw [settle_eq h.ready (Nat.le_refl _), h.due_now, h.after_now]
  simp [Detector.afterFiring, Detector.holdFires]

/-- The hold timer fires by a time if its deadline is not later. -/
theorem holdFires_due {t : Timers Slot Unit} {c : Clock} (h : t.Fresh c) (time : Nat) :
    Detector.holdFires (t.due time) = (t.deadline? .hold).any (· ≤ time) := by
  rw [Bool.eq_iff_iff, Option.any_eq_true]
  simp only [Detector.holdFires, Timers.due_eq_filter, List.any_filter, List.any_eq_true,
    Bool.and_eq_true, decide_eq_true_eq]
  constructor
  · rintro ⟨e, he, hle, hs⟩
    exact ⟨e.due, (Timers.deadline?_eq_some_iff h.slots).2 ⟨e, he, hs, rfl⟩, hle⟩
  · rintro ⟨time', hd, hle⟩
    obtain ⟨e, he, hs, rfl⟩ := (Timers.deadline?_eq_some_iff h.slots).1 hd
    exact ⟨e, he, hle, hs⟩

/-! ## Inputs keep what is pending in order -/

end DetectorRun

namespace Detector

variable {d : Detector} {c : Clock}

theorem ready_down (h : d.timers.Ready c) (supply : Option Bindings) (target : Target) (p : Point) :
    (d.down supply c target p).1.timers.Ready (d.down supply c target p).2 ∧
      (d.down supply c target p).2.now = c.now := by
  cases hd : d.isDetached with
  | true =>
    rw [down, if_pos hd]
    exact ⟨h, rfl⟩
  | false =>
    rw [down_of_attached hd]
    split
    · exact ⟨h.start _ _ _, rfl⟩
    · exact ⟨h, rfl⟩

theorem ready_up (h : d.timers.Ready c) (supply : Option Bindings) (target : Target) :
    (d.up supply c target).1.timers.Ready (d.up supply c target).2.1 ∧
      (d.up supply c target).2.1.now = c.now := by
  have hc := h.cancel .hold
  cases hd : d.isDetached with
  | true =>
    rw [up, if_pos hd]
    exact ⟨h, rfl⟩
  | false =>
    have hrelease := release_up hd supply c target
    generalize d.up supply c target = out at hrelease ⊢
    cases hrelease with
    | doubleTap => exact ⟨hc.cancel _, rfl⟩
    | deferred => exact ⟨hc.start _ _ _, rfl⟩
    | _ => exact ⟨hc, rfl⟩

theorem ready_move (h : d.timers.Ready c) (p : Point) : (d.move p).timers.Ready c := by
  rcases d.move_eq_or p with hmove | hmove <;> rw [hmove]
  · exact h
  · exact h.cancel _

/-- No input leaves an overdue timer, or makes time pass. -/
theorem ready_handle (h : d.timers.Ready c) (supply : Option Bindings) (i : Input) :
    (d.handle supply c i).1.timers.Ready (d.handle supply c i).2.1 ∧
      (d.handle supply c i).2.1.now = c.now := by
  cases i with
  | down target p => exact ready_down h supply target p
  | move p => exact ⟨ready_move h p, rfl⟩
  | up target => exact ready_up h supply target
  | cancel => exact ⟨h.cancel _, rfl⟩
  | leave => exact ⟨h.cancel _, rfl⟩
  | detach => exact ⟨.empty c, rfl⟩
  | setBindings b => exact ⟨h, rfl⟩

end Detector

namespace DetectorRun

theorem reported_none (r : DetectorRun) : r.reported none = r := by
  simp [reported]

theorem act_up (r : DetectorRun) (target : Target) :
    r.act (.input (.up target)) =
      { r with
        detector := (r.detector.up r.supply r.clock target).1
        clock := (r.detector.up r.supply r.clock target).2.1 }.reported
          (r.detector.up r.supply r.clock target).2.2 := rfl

theorem ready_act {r : DetectorRun} (h : r.Settled) (s : DetectorStep) :
    (r.act s).detector.timers.Ready (r.act s).clock := by
  cases s with
  | input i => exact (Detector.ready_handle h.ready r.supply i).1
  | setSupply b => exact h.ready
  | sleep delay => exact (settled_settle h.ready (Nat.le_add_right _ _)).ready

/-- Every step ends with all timers fired that are due. -/
theorem Settled.step {r : DetectorRun} (h : r.Settled) (s : DetectorStep) : (r.step s).Settled :=
  settled_settle (ready_act h s) (Nat.le_refl _)

theorem step_eq (r : DetectorRun) (s : DetectorStep) :
    r.step s = (r.act s).settle (r.act s).clock.now := rfl

/-- A step that leaves nothing due fires nothing. -/
theorem step_eq_act {r : DetectorRun} {s : DetectorStep} (h : (r.act s).Settled) :
    r.step s = r.act s :=
  h.settle_now

/-- The run after some steps. -/
def run (r : DetectorRun) (steps : List DetectorStep) : DetectorRun :=
  steps.foldl step r

theorem run_append (r : DetectorRun) (steps more : List DetectorStep) :
    r.run (steps ++ more) = (r.run steps).run more :=
  List.foldl_append

end DetectorRun

end NavigationBar
