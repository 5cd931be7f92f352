import NavigationBar.Proofs.Gesture.Presses

/-!
# Detectors that meet one element

The timers of a detector that reports holds at the release, run on presses on one element, are
determined by what the presses have been so far (`Tracks`): the timer of a deferred tap runs out one
window after the last tap, and the hold timer runs exactly as long as the press can still become a
hold. Each kind of step keeps this.
-/

namespace NavigationBar

/-! ## Deadlines of a detector that meets one element -/

/-- The deadlines of the deferred tap and of the hold; nothing waits on other elements. -/
structure Deadlines (target : Target) (tap hold : Option Nat) (t : Timers Slot Unit) : Prop where
  /-- The deadline of the deferred tap. -/
  tap_eq : t.deadline? (.tap target) = tap
  /-- The deadline of the hold. -/
  hold_eq : t.deadline? .hold = hold
  /-- Nothing waits on other elements. -/
  other_eq : ∀ other ≠ target, t.deadline? (.tap other) = none

namespace Deadlines

variable {target : Target} {tap hold : Option Nat} {t : Timers Slot Unit} {c : Clock}

theorem cancelHold (h : Deadlines target tap hold t) :
    Deadlines target tap none (t.cancel .hold) where
  tap_eq := (Timers.deadline?_cancel_of_ne (by simp)).trans h.tap_eq
  hold_eq := Timers.deadline?_cancel_self t .hold
  other_eq other ho := (Timers.deadline?_cancel_of_ne (by simp)).trans (h.other_eq other ho)

theorem cancelTap (h : Deadlines target tap hold t) :
    Deadlines target none hold (t.cancel (.tap target)) where
  tap_eq := Timers.deadline?_cancel_self t _
  hold_eq := (Timers.deadline?_cancel_of_ne (by simp)).trans h.hold_eq
  other_eq other ho :=
    (Timers.deadline?_cancel_of_ne (by simpa using ho)).trans (h.other_eq other ho)

theorem startHold (h : Deadlines target tap hold t) (hf : t.Fresh c) (delay : Nat) :
    Deadlines target tap (some (c.now + delay)) (t.start c .hold delay ()) where
  tap_eq := (hf.deadline?_start_of_ne (by simp) _ _).trans h.tap_eq
  hold_eq := hf.deadline?_start_self _ _ _
  other_eq other ho := (hf.deadline?_start_of_ne (by simp) _ _).trans (h.other_eq other ho)

theorem startTap (h : Deadlines target tap hold t) (hf : t.Fresh c) (delay : Nat) :
    Deadlines target (some (c.now + delay)) hold (t.start c (.tap target) delay ()) where
  tap_eq := hf.deadline?_start_self _ _ _
  hold_eq := (hf.deadline?_start_of_ne (by simp) _ _).trans h.hold_eq
  other_eq other ho :=
    (hf.deadline?_start_of_ne (by simpa using ho) _ _).trans (h.other_eq other ho)

theorem after (h : Deadlines target tap hold t) (hf : t.Fresh c) (time : Nat) :
    Deadlines target (tap.filter (time < ·)) (hold.filter (time < ·)) (t.after time) where
  tap_eq := by rw [hf.deadline?_after, h.tap_eq]
  hold_eq := by rw [hf.deadline?_after, h.hold_eq]
  other_eq other ho := by rw [hf.deadline?_after, h.other_eq other ho]; rfl

theorem pending_eq_nil (h : Deadlines target none none t) : t.pending = [] := by
  rw [Timers.pending_eq_nil_iff]
  intro slot
  cases slot with
  | hold => exact h.hold_eq
  | tap other =>
    by_cases ho : other = target
    · rw [ho, h.tap_eq]
    · exact h.other_eq other ho

end Deadlines

/-- The report of a tap that is due at a time, if there is one. -/
def tapReport (target : Target) (due : Option Nat) : List (Nat × Recognition) :=
  (due.map fun time => (time, ⟨.tap, target⟩)).toList

namespace DetectorRun

variable {timing : GestureTiming} {b : Bindings} {target : Target}
variable {last tapDue holdDue : Option Nat} {r : DetectorRun}

/-- The detector of a run is attached, reports holds at the release, and has the given timing and
bindings. -/
structure Configured (timing : GestureTiming) (b : Bindings) (r : DetectorRun) : Prop where
  /-- The timing is the given one. -/
  timing_eq : r.detector.timing = timing
  /-- Holds are reported at the release. -/
  mode_eq : r.detector.mode = .onRelease
  /-- The detector is attached. -/
  attached : r.detector.isDetached = false
  /-- The bindings are the given ones. -/
  bound_eq : r.detector.bound r.supply = b

/-- A run whose detector was tapped last at the time `last` and has the deadlines `tapDue` and
`holdDue`. -/
structure Watches (timing : GestureTiming) (b : Bindings) (target : Target)
    (last tapDue holdDue : Option Nat) (r : DetectorRun) : Prop extends
    r.Configured timing b where
  /-- Nothing is overdue. -/
  ready : r.detector.timers.Ready r.clock
  /-- The last tap is the given one. -/
  lastTap_eq : r.detector.lastTap = last.map (·, target)
  /-- The last tap is over. -/
  last_le : ∀ time ∈ last, time ≤ r.clock.now
  /-- The deadlines are the given ones. -/
  deadlines : Deadlines target tapDue holdDue r.detector.timers

/-- The timers that fire up to a time report the deferred tap, if it is due by then. -/
theorem Watches.filterMap_firing? (h : r.Watches timing b target last tapDue holdDue)
    (time : Nat) : (r.detector.timers.due time).filterMap (r.detector.firing? r.supply) =
      tapReport target (tapDue.filter (· ≤ time)) := by
  have hnone : ∀ e ∈ r.detector.timers.pending, e.value.1 ≠ .tap target →
      (if e.due ≤ time then r.detector.firing? r.supply e else none) = none := by
    intro e he hne
    rw [Detector.firing?, h.attached]
    cases hs : e.value.1 with
    | hold => simp [h.mode_eq]
    | tap other =>
      have hother : other ≠ target := fun ho => hne (by rw [hs, ho])
      exact absurd hs (Timers.deadline?_eq_none_iff.1 (h.deadlines.other_eq other hother) e he)
  rw [Timers.due_eq_filter, List.filterMap_filter]
  simp only [decide_eq_true_eq]
  rw [Timers.filterMap_eq_of_slot h.ready.slots (.tap target) _ hnone, ← h.deadlines.tap_eq,
    Timers.deadline?, tapReport]
  cases hfind : r.detector.timers.pending.find? fun e => e.value.1 = .tap target with
  | none => rfl
  | some e =>
    have hs : e.value.1 = .tap target := by simpa using List.find?_some hfind
    by_cases hle : e.due ≤ time <;> simp [hle, Detector.firing?, h.attached, hs, Option.filter]

/-- Time passes: what is due by then fires. -/
theorem Watches.settle (h : r.Watches timing b target last tapDue holdDue) {time : Nat}
    (hnow : r.clock.now ≤ time) :
    (r.settle time).Watches timing b target last (tapDue.filter (time < ·))
        (holdDue.filter (time < ·)) ∧
      (r.settle time).clock.now = time ∧
      (r.settle time).detector.start = r.detector.start ∧
      (r.settle time).detector.isHold =
        (r.detector.isHold || (holdDue.any (· ≤ time) && b.hold)) ∧
      (r.settle time).log = r.log ++ tapReport target (tapDue.filter (· ≤ time)) := by
  have hready := (settled_settle h.ready hnow).ready
  have heq := settle_eq h.ready hnow
  rw [h.filterMap_firing?] at heq
  rw [heq] at hready ⊢
  refine ⟨⟨⟨h.timing_eq, h.mode_eq, h.attached, ?_⟩, hready, h.lastTap_eq, ?_, ?_⟩, rfl, rfl, ?_,
    rfl⟩
  · exact (Detector.bound_afterFiring ..).trans h.bound_eq
  · exact fun l hl => (h.last_le l hl).trans hnow
  · exact h.deadlines.after h.ready.toFresh time
  · rw [← h.deadlines.hold_eq, ← h.bound_eq, ← holdFires_due h.ready.toFresh]
    rfl

/-! ## Taps that are deferred -/

/-- When a tap that is deferred at the time `last` is due. -/
def awaited (timing : GestureTiming) (b : Bindings) (last : Option Nat) : Option Nat :=
  if b.tap && b.doubleTap then last.map (· + timing.window) else none

/-- The report of a tap that was deferred at the time `last` and is not due yet. -/
def deferred (timing : GestureTiming) (b : Bindings) (target : Target) (last : Option Nat)
    (now : Nat) : List (Nat × Recognition) :=
  tapReport target ((awaited timing b last).filter (now < ·))

theorem filter_lt_filter_lt (due : Option Nat) {now time : Nat} (h : now ≤ time) :
    (due.filter (now < ·)).filter (time < ·) = due.filter (time < ·) := by
  cases due with
  | none => rfl
  | some n =>
    rw [Option.filter_filter, Option.filter_some, Option.filter_some]
    by_cases hn : time < n
    · simp [hn, h.trans_lt hn]
    · simp [hn]

/-- What fires while time passes, together with what is deferred after that. -/
theorem tapReport_append (due : Option Nat) {now time : Nat} (h : now ≤ time) :
    tapReport target ((due.filter (now < ·)).filter (· ≤ time)) ++
      tapReport target (due.filter (time < ·)) = tapReport target (due.filter (now < ·)) := by
  cases due with
  | none => rfl
  | some n =>
    rw [Option.filter_filter, Option.filter_some, Option.filter_some, Option.filter_some]
    by_cases hn : time < n
    · have hm : now < n := h.trans_lt hn
      simp [tapReport, hn, hm]
    · have hle : n ≤ time := Nat.le_of_not_lt hn
      simp [tapReport, hn, hle]

/-- A tap is reported when it is due, now or later. -/
theorem tapReport_some (due now : Nat) :
    tapReport target ((some due).filter (· ≤ now)) ++
      tapReport target ((some due).filter (now < ·)) = [(due, ⟨.tap, target⟩)] := by
  rw [Option.filter_some, Option.filter_some]
  by_cases hn : now < due
  · have hle : ¬ due ≤ now := Nat.not_le_of_lt hn
    simp [tapReport, hn, hle]
  · have hle : due ≤ now := Nat.le_of_not_lt hn
    simp [tapReport, hn, hle]

theorem tapReport_filter_le (due : Option Nat) (now : Nat) :
    tapReport target ((due.filter (now < ·)).filter (· ≤ now)) = [] := by
  cases due with
  | none => rfl
  | some n =>
    rw [Option.filter_filter, Option.filter_some]
    by_cases hn : now < n <;> simp [tapReport, hn]

theorem awaited_none : awaited timing b none = none := by
  unfold awaited
  split <;> rfl

theorem deferred_none (now : Nat) : deferred timing b target none now = [] := by
  rw [deferred, awaited_none]
  rfl

/-- Whether a release now makes a double tap together with a tap at the time `last`. -/
def pairs (timing : GestureTiming) (b : Bindings) (last : Option Nat) (now : Nat) : Bool :=
  b.doubleTap && last.any fun time => now - time < timing.window

/-- A tap that a release does not pair with is not deferred any more. -/
theorem awaited_filter_eq_none {now : Nat} (hle : ∀ time ∈ last, time ≤ now)
    (h : pairs timing b last now = false) :
    (awaited timing b last).filter (now < ·) = none := by
  cases last with
  | none => rw [awaited_none]; rfl
  | some time =>
    have htime : time ≤ now := hle time rfl
    by_cases hb : (b.tap && b.doubleTap) = true
    · have hd : b.doubleTap = true := (Bool.and_eq_true _ _ ▸ hb).2
      simp only [pairs, hd, Option.any_some, Bool.true_and, decide_eq_false_iff_not] at h
      have : ¬ now < time + timing.window := by omega
      simp [awaited, hb, Option.filter_some, this]
    · simp [awaited, hb]

/-- A tap that a release at `time` pairs with has been deferred all along. -/
theorem deferred_eq_of_pairs {now time : Nat} (hle : ∀ l ∈ last, l ≤ now) (hnow : now ≤ time)
    (h : pairs timing b last time = true) :
    deferred timing b target last time = deferred timing b target last now := by
  cases last with
  | none => rw [deferred_none, deferred_none]
  | some l =>
    have hl : l ≤ now := hle l rfl
    simp only [pairs, Option.any_some, Bool.and_eq_true, decide_eq_true_eq] at h
    have h₁ : time < l + timing.window := by omega
    have h₂ : now < l + timing.window := by omega
    unfold deferred awaited
    split <;> simp [Option.filter_some, h₁, h₂]

/-! ## A press under way -/

/-- A run between two steps. The press that may still become a hold or has become one is `live`:
where it began, and from when on it is a hold. -/
structure Tracks (timing : GestureTiming) (b : Bindings) (target : Target) (last : Option Nat)
    (live : Option (Point × Nat)) (r : DetectorRun) : Prop extends
    r.Watches timing b target last ((awaited timing b last).filter (r.clock.now < ·))
      ((live.map Prod.snd).filter (r.clock.now < ·)) where
  /-- The press is a hold from its time on. -/
  isHold_eq : r.detector.isHold = live.any (·.2 ≤ r.clock.now)
  /-- The detector knows where the press began. -/
  start_eq : ∀ l ∈ live, r.detector.start = some l.1
  /-- Holds are bound. -/
  bound_hold : ∀ l ∈ live, b.hold = true

variable {live : Option (Point × Nat)}

theorem Tracks.settled (h : r.Tracks timing b target last live) : r.Settled := by
  refine ⟨h.ready, fun e he => ?_⟩
  have hd : r.detector.timers.deadline? e.value.1 = some e.due :=
    (Timers.deadline?_eq_some_iff h.ready.slots).2 ⟨e, he, rfl, rfl⟩
  cases hs : e.value.1 with
  | hold =>
    rw [hs, h.deadlines.hold_eq, Option.filter_eq_some_iff] at hd
    simpa using hd.2
  | tap other =>
    by_cases ho : other = target
    · rw [hs, ho, h.deadlines.tap_eq, Option.filter_eq_some_iff] at hd
      simpa using hd.2
    · rw [hs, h.deadlines.other_eq other ho] at hd
      exact absurd hd nofun

/-- What is left of the hope for a hold after an interlude. -/
def liveAfter (timing : GestureTiming) (now : Nat) (live : Option (Point × Nat)) :
    Interlude → Option (Point × Nat)
  | .move q => live.filter fun l => !timing.exceeds l.1 q || l.2 ≤ now
  | .leave | .cancel => none
  | .sleep _ => live

/-- The hope for a hold is given up: its timer is cancelled. -/
theorem Tracks.dropHold (h : r.Tracks timing b target last live) (start : Option Point) :
    DetectorRun.Tracks timing b target last none { r with
      detector := { r.detector with
        start, isHold := false, timers := r.detector.timers.cancel .hold } } where
  timing_eq := h.timing_eq
  mode_eq := h.mode_eq
  attached := h.attached
  bound_eq := h.bound_eq
  ready := h.ready.cancel _
  lastTap_eq := h.lastTap_eq
  last_le := h.last_le
  deadlines := h.deadlines.cancelHold
  isHold_eq := rfl
  start_eq := nofun
  bound_hold := nofun

theorem Tracks.abandon (h : r.Tracks timing b target last live) :
    (r.act (.input .leave)).Tracks timing b target last none ∧
      (r.act (.input .leave)).clock = r.clock ∧ (r.act (.input .leave)).log = r.log := by
  have heq : r.act (.input .leave) = { r with detector := r.detector.abandon } :=
    reported_none _
  rw [heq]
  exact ⟨h.dropHold none, rfl, rfl⟩

theorem Tracks.move (h : r.Tracks timing b target last live) (q : Point) :
    (r.act (.input (.move q))).Tracks timing b target last
        (liveAfter timing r.clock.now live (.move q)) ∧
      (r.act (.input (.move q))).clock = r.clock ∧ (r.act (.input (.move q))).log = r.log := by
  have heq : r.act (.input (.move q)) = { r with detector := r.detector.move q } :=
    reported_none _
  rw [heq]
  refine ⟨?_, rfl, rfl⟩
  have hpending : r.detector.holdPending =
      ((live.map Prod.snd).filter (r.clock.now < ·)).isSome := by
    rw [Detector.holdPending, Timers.isActive_eq, h.deadlines.hold_eq]
  obtain rfl := h.timing_eq
  cases hl : live with
  | none =>
    rw [hl] at h hpending
    rw [Detector.move_of_not_pending hpending]
    exact h
  | some l =>
    obtain ⟨p, limit⟩ := l
    rw [hl] at h hpending
    rw [Option.map_some, Option.filter_some] at hpending
    by_cases hlt : r.clock.now < limit
    · rw [Detector.move_of_start (h.start_eq _ rfl), hpending]
      by_cases he : r.detector.timing.exceeds p q = true
      · have hle : ¬ limit ≤ r.clock.now := Nat.not_le_of_lt hlt
        have hfalse : r.detector.isHold = false := by rw [h.isHold_eq]; simpa using hlt
        have hd := h.dropHold r.detector.start
        rw [← hfalse] at hd
        simpa [hlt, he, liveAfter, Option.filter_some, hle] using hd
      · simpa [he, liveAfter, Option.filter_some] using h
    · have hle : limit ≤ r.clock.now := Nat.le_of_not_lt hlt
      rw [Detector.move_of_not_pending (by simpa [hlt] using hpending)]
      simpa [liveAfter, Option.filter_some, hle] using h

theorem Tracks.sleep (h : r.Tracks timing b target last live) (delay : Nat) :
    (r.act (.sleep delay)).Tracks timing b target last live ∧
      (r.act (.sleep delay)).clock.now = r.clock.now + delay ∧
      (r.act (.sleep delay)).log ++
          deferred timing b target last (r.clock.now + delay) =
        r.log ++ deferred timing b target last r.clock.now := by
  have hnow : r.clock.now ≤ r.clock.now + delay := Nat.le_add_right _ _
  obtain ⟨hw, hclock, hstart, hhold, hlog⟩ := h.toWatches.settle hnow
  change DetectorRun.Tracks _ _ _ _ _ (r.settle _) ∧ (r.settle _).clock.now = _ ∧
    (r.settle _).log ++ _ = _
  rw [filter_lt_filter_lt _ hnow, filter_lt_filter_lt _ hnow] at hw
  refine ⟨⟨by rw [hclock]; exact hw, ?_, ?_, h.bound_hold⟩, hclock, ?_⟩
  · rw [hhold, h.isHold_eq, hclock]
    cases hl : live with
    | none => rfl
    | some l =>
      have hb := h.bound_hold l hl
      simp only [Option.any_some, Option.map_some, Option.filter_some, hb, Bool.and_true]
      by_cases hlt : r.clock.now < l.2
      · have hle : ¬ l.2 ≤ r.clock.now := Nat.not_le_of_lt hlt
        simp [hlt, hle]
      · have hle : l.2 ≤ r.clock.now := Nat.le_of_not_lt hlt
        simp [hlt, hle, hle.trans hnow]
  · rw [hstart]
    exact h.start_eq
  · rw [hlog, deferred, deferred, List.append_assoc, tapReport_append _ hnow]

/-- An interlude reports nothing but the deferred tap, when it is due. -/
theorem Tracks.interlude (h : r.Tracks timing b target last live) (i : Interlude) :
    (r.step i.step).Tracks timing b target last (liveAfter timing r.clock.now live i) ∧
      (r.step i.step).clock.now = r.clock.now + i.delay ∧
      (r.step i.step).log ++ deferred timing b target last (r.step i.step).clock.now =
        r.log ++ deferred timing b target last r.clock.now := by
  cases i with
  | move q =>
    obtain ⟨ht, hclock, hlog⟩ := h.move q
    rw [Interlude.step, step_eq_act ht.settled]
    exact ⟨ht, by rw [hclock]; rfl, by rw [hlog, hclock]⟩
  | leave =>
    obtain ⟨ht, hclock, hlog⟩ := h.abandon
    rw [Interlude.step, step_eq_act ht.settled]
    exact ⟨ht, by rw [hclock]; rfl, by rw [hlog, hclock]⟩
  | cancel =>
    obtain ⟨ht, hclock, hlog⟩ := h.abandon
    have heq : r.act (.input .cancel) = r.act (.input .leave) := rfl
    rw [Interlude.step, step_eq_act (heq ▸ ht.settled), heq]
    exact ⟨ht, by rw [hclock]; rfl, by rw [hlog, hclock]⟩
  | sleep delay =>
    obtain ⟨ht, hclock, hlog⟩ := h.sleep delay
    rw [Interlude.step, step_eq_act ht.settled]
    exact ⟨ht, hclock, by rw [hclock]; exact hlog⟩

theorem Tracks.down (h : r.Tracks timing b target last live) (p : Point) :
    (r.step (.input (.down target p))).Tracks timing b target last
        (if b.hold then some (p, r.clock.now + timing.hold) else none) ∧
      (r.step (.input (.down target p))).clock.now = r.clock.now ∧
      (r.step (.input (.down target p))).log = r.log := by
  have hact : r.act (.input (.down target p)) =
      { r with
        detector := (r.detector.down r.supply r.clock target p).1
        clock := (r.detector.down r.supply r.clock target p).2 } := reported_none _
  have hagain := (r.detector.getD_bound r.supply).trans h.bound_eq
  rw [Detector.down_of_attached h.attached, h.bound_eq] at hact
  unfold step
  by_cases hb : b.hold = true
  · simp only [hb, if_true] at hact ⊢
    have hw : (r.act (.input (.down target p))).Watches timing b target last
        ((awaited timing b last).filter (r.clock.now < ·)) (some (r.clock.now + timing.hold)) := by
      rw [hact, ← h.timing_eq]
      exact ⟨⟨rfl, h.mode_eq, h.attached, hagain⟩, h.ready.start .hold _ (), h.lastTap_eq,
        h.last_le, h.timing_eq ▸ h.deadlines.startHold h.ready.toFresh _⟩
    have hnow : (r.act (.input (.down target p))).clock.now = r.clock.now := by rw [hact]; rfl
    obtain ⟨hws, hclock, hstart, hhold, hlog⟩ := hw.settle (Nat.le_refl _)
    rw [hnow] at hclock hws hstart hhold hlog ⊢
    rw [filter_lt_filter_lt _ (Nat.le_refl _)] at hws
    refine ⟨⟨by rw [hclock]; exact hws, ?_, ?_, fun _ _ => hb⟩, hclock, ?_⟩
    · rw [hhold, hclock, hact, hb]
      simp [Detector.pressed]
    · rw [hstart, hact]
      rintro l ⟨⟩
      rfl
    · rw [hlog, tapReport_filter_le, List.append_nil, hact]
  · have hlive : live = none := by
      cases hl : live with
      | none => rfl
      | some l => exact absurd (h.bound_hold l hl) hb
    simp only [hb, Bool.false_eq_true, if_false] at hact ⊢
    have ht : (r.act (.input (.down target p))).Tracks timing b target last none := by
      rw [hact]
      rw [hlive] at h
      exact ⟨⟨⟨h.timing_eq, h.mode_eq, h.attached, hagain⟩, h.ready, h.lastTap_eq, h.last_le,
        h.deadlines⟩, rfl, nofun, nofun⟩
    rw [ht.settled.settle_now, hact] at *
    exact ⟨ht, rfl, rfl⟩

end DetectorRun

end NavigationBar
