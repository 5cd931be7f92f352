import Mathlib.Data.List.Induction
import NavigationBar.Proofs.Time.Deadlines
import NavigationBar.Time.Timers

/-!
# Which timers fire, and when

What a run of timers does can be told from what was asked of it. A timer is due at the time of its
start plus its delay. It fires once that time has come, unless something took it away before: a
later start in its slot, a cancel of its slot, or a cancel of all timers. As long as neither
happened it is pending, and whoever asks for its slot is told so.

A run is followed from its begin, one step after the other. What every step keeps is that the timers
which are pending, and those which have fired, are the ones that the history of the run names
(`DeadlineRun.Follows`).
-/

namespace NavigationBar

/-! ## Histories -/

namespace TimerStep

variable {σ π : Type}

/-- How long a step takes. -/
def delay : TimerStep σ π → Nat
  | sleep delay => delay
  | _ => 0

/-- How long some steps take. -/
def duration : List (TimerStep σ π) → Nat
  | [] => 0
  | s :: steps => s.delay + duration steps

/-- Whether a step starts a timer. -/
def isStart : TimerStep σ π → Bool
  | start .. => true
  | _ => false

/-- The timer that is started after some steps, which began at the clock `c`. -/
def timerAfter (c : Clock) (before : List (TimerStep σ π)) (slot : σ) (delay : Nat) (memory : π) :
    Scheduled (σ × π) :=
  ⟨c.now + duration before + delay, c.stamp + before.countP isStart, (slot, memory)⟩

/-- Whether a step takes the timer in a slot away, if one is pending there. -/
def takesAway [DecidableEq σ] (slot : σ) : TimerStep σ π → Bool
  | start other _ _ => other = slot
  | cancel other => other = slot
  | cancelAll => true
  | _ => false

/-- None of some steps takes the timer in a slot away before a delay has passed. -/
def Spares [DecidableEq σ] (slot : σ) (delay : Nat) (steps : List (TimerStep σ π)) : Prop :=
  ∀ before s after, steps = before ++ s :: after → s.takesAway slot = true →
    delay ≤ duration before

theorem duration_append (steps more : List (TimerStep σ π)) :
    duration (steps ++ more) = duration steps + duration more := by
  induction steps with
  | nil => exact (Nat.zero_add _).symm
  | cons s steps ih =>
    rw [List.cons_append, duration, duration, ih, Nat.add_assoc]

theorem duration_concat (steps : List (TimerStep σ π)) (s : TimerStep σ π) :
    duration (steps ++ [s]) = duration steps + s.delay :=
  duration_append steps [s]

/-- The last of some steps is the one after `before`, or there is one after that. -/
theorem concat_eq_append_cons_iff {α : Type} {l before after : List α} {a b : α} :
    l ++ [a] = before ++ b :: after ↔
      (after = [] ∧ l = before ∧ a = b) ∨
        ∃ rest, after = rest ++ [a] ∧ l = before ++ b :: rest := by
  induction after using List.reverseRecOn with
  | nil => simp
  | append_singleton rest x _ =>
    rw [← List.cons_append, ← List.append_assoc]
    constructor
    · intro h
      obtain ⟨hl, ha⟩ := List.append_inj' h rfl
      exact .inr ⟨rest, by rw [ha], hl⟩
    · rintro (⟨h, -⟩ | ⟨rest', h, rfl⟩)
      · simp at h
      · obtain ⟨rfl, hx⟩ := List.append_inj' h rfl
        rw [hx]

section Slots

variable [DecidableEq σ] {slot : σ} {delay : Nat} {steps : List (TimerStep σ π)}

theorem spares_nil : Spares slot delay ([] : List (TimerStep σ π)) := by
  intro before s after h
  simp at h

theorem spares_concat {s : TimerStep σ π} : Spares slot delay (steps ++ [s]) ↔
    Spares slot delay steps ∧ (s.takesAway slot = true → delay ≤ duration steps) := by
  constructor
  · intro h
    refine ⟨fun before x after hx htakes => ?_, fun htakes => h steps s [] rfl htakes⟩
    exact h before x (after ++ [s]) (by simp [hx]) htakes
  · rintro ⟨hsteps, hs⟩ before x after hx htakes
    rcases concat_eq_append_cons_iff.1 hx with ⟨-, rfl, rfl⟩ | ⟨rest, -, hrest⟩
    · exact hs htakes
    · exact hsteps before x rest hrest htakes

/-- Before the delay has passed, a timer is spared as long as nothing takes it away at all. -/
theorem spares_of_duration_lt (h : duration steps < delay) :
    Spares slot delay steps ↔ ∀ s ∈ steps, s.takesAway slot = false := by
  constructor
  · intro hspare s hs
    by_contra htakes
    obtain ⟨before, after, rfl⟩ := List.append_of_mem hs
    have hle := hspare before s after rfl (by simpa using htakes)
    rw [duration_append] at h
    omega
  · intro hall before s after hsteps htakes
    rw [hall s (by simp [hsteps])] at htakes
    exact absurd htakes nofun

end Slots

/-- A timer was started in the course of some steps, which began at the clock `c`; `after` are the
steps since then. -/
def Starts (c : Clock) (steps : List (TimerStep σ π)) (e : Scheduled (σ × π)) (delay : Nat)
    (after : List (TimerStep σ π)) : Prop :=
  ∃ before, steps = before ++ .start e.value.1 delay e.value.2 :: after ∧
    e = timerAfter c before e.value.1 delay e.value.2

variable {c : Clock} {steps after : List (TimerStep σ π)} {e : Scheduled (σ × π)} {d : Nat}

theorem not_starts_nil : ¬ Starts c [] e d after := by
  rintro ⟨before, h, -⟩
  simp at h

/-- A timer is due when its delay has passed since its start. -/
theorem Starts.due_eq (h : Starts c steps e d after) :
    e.due + duration after = c.now + duration steps + d := by
  obtain ⟨before, rfl, he⟩ := h
  rw [he, timerAfter, duration_append, duration]
  simp only [delay]
  omega

theorem starts_concat {s : TimerStep σ π} : Starts c (steps ++ [s]) e d after ↔
    (after = [] ∧ s = .start e.value.1 d e.value.2 ∧
        e = timerAfter c steps e.value.1 d e.value.2) ∨
      ∃ rest, after = rest ++ [s] ∧ Starts c steps e d rest := by
  constructor
  · rintro ⟨before, h, he⟩
    rcases concat_eq_append_cons_iff.1 h with ⟨hafter, rfl, hs⟩ | ⟨rest, hafter, hsteps⟩
    · exact .inl ⟨hafter, hs, he⟩
    · exact .inr ⟨rest, hafter, before, hsteps, he⟩
  · rintro (⟨rfl, rfl, he⟩ | ⟨rest, rfl, before, rfl, he⟩)
    · exact ⟨steps, rfl, he⟩
    · exact ⟨before, by simp, he⟩

/-- Timers have the same stamp only if they were started by the same step. -/
theorem eq_of_countP_isStart {before before' after after' : List (TimerStep σ π)}
    {s s' : TimerStep σ π} (h : before ++ s :: after = before' ++ s' :: after')
    (hs : s.isStart = true) (hs' : s'.isStart = true)
    (hcount : before.countP isStart = before'.countP isStart) :
    before = before' ∧ s = s' ∧ after = after' := by
  rcases List.append_eq_append_iff.1 h with ⟨mid, rfl, hmid⟩ | ⟨mid, rfl, hmid⟩
  · cases mid with
    | nil => simpa using hmid
    | cons x mid =>
      obtain rfl : s = x := (List.cons.inj hmid).1
      simp [hs] at hcount
  · cases mid with
    | nil => simpa [eq_comm] using hmid
    | cons x mid =>
      obtain rfl : s' = x := (List.cons.inj hmid).1
      simp [hs'] at hcount

end TimerStep

/-! ## Runs of a list of deadlines -/

/-- A list of deadlines in the course of time, and which of its timers have fired when. -/
structure DeadlineRun (σ π : Type) where
  /-- The clock. -/
  clock : Clock := {}
  /-- The pending timers. -/
  timers : Timers σ π := {}
  /-- The timers that have fired, the first first. -/
  fired : List (Scheduled (σ × π)) := []

namespace DeadlineRun

open TimerStep

variable {σ π : Type} {r : DeadlineRun σ π} {e : Scheduled (σ × π)}

/-- Fires what is due by a time, at which the clock stands then. -/
def settle (r : DeadlineRun σ π) (time : Nat) : DeadlineRun σ π where
  clock := r.clock.advance time
  timers := r.timers.after time
  fired := r.fired ++ r.timers.due time

/-- Nothing is left to fire at a time once everything up to then has fired. -/
theorem settle_settle (r : DeadlineRun σ π) {time later : Nat} (h : time ≤ later) :
    (r.settle time).settle later = r.settle later := by
  have hsplit : ∀ l : List (Scheduled (σ × π)),
      l.takeWhile (fun e => e.due ≤ time) ++
          (l.dropWhile fun e => e.due ≤ time).takeWhile (fun e => e.due ≤ later) =
        l.takeWhile (fun e => e.due ≤ later) ∧
      (l.dropWhile fun e => e.due ≤ time).dropWhile (fun e => e.due ≤ later) =
        l.dropWhile fun e => e.due ≤ later := by
    intro l
    induction l with
    | nil => exact ⟨rfl, rfl⟩
    | cons e l ih =>
      by_cases he : e.due ≤ time
      · simpa [he, he.trans h] using ih
      · simp [he]
  obtain ⟨hdue, hafter⟩ := hsplit r.timers.pending
  have htimers : (r.timers.after time).after later = r.timers.after later :=
    Timers.eq_of_pending hafter
  simp only [settle, htimers, List.append_assoc, mk.injEq, true_and, List.append_cancel_left_eq]
  refine ⟨?_, hdue⟩
  simp [Clock.advance, Nat.max_assoc, h]

theorem mem_pending_settle {time : Nat} :
    e ∈ (r.settle time).timers.pending ↔ e ∈ r.timers.pending ∧ time < e.due := by
  simp [settle, Timers.pending_after]

theorem mem_fired_settle {time : Nat} :
    e ∈ (r.settle time).fired ↔ e ∈ r.fired ∨ (e ∈ r.timers.pending ∧ e.due ≤ time) := by
  simp [settle, Timers.due_eq_filter]

variable [DecidableEq σ]

/-- Does one thing, before time passes and timers fire; tells whether a timer is pending in the slot
that a cancel or a question is about. -/
def act (r : DeadlineRun σ π) : TimerStep σ π → DeadlineRun σ π × Option Bool
  | .start slot delay memory =>
    ({ r with
        clock := r.clock.tick
        timers := r.timers.start r.clock slot delay memory }, none)
  | .cancel slot => ({ r with timers := r.timers.cancel slot }, some (r.timers.isActive slot))
  | .cancelAll => ({ r with timers := r.timers.cancelAll }, none)
  | .isActive slot => (r, some (r.timers.isActive slot))
  | .sleep _ => (r, none)

/-- Does one thing, and fires whatever is due when it is over. -/
def step (r : DeadlineRun σ π) (s : TimerStep σ π) : DeadlineRun σ π × Option Bool :=
  let (next, answer) := r.act s
  (next.settle (r.clock.now + s.delay), answer)

theorem clock_act (r : DeadlineRun σ π) (s : TimerStep σ π) :
    (r.act s).1.clock = { r.clock with stamp := r.clock.stamp + if s.isStart then 1 else 0 } := by
  cases s <;> rfl

theorem fired_act (r : DeadlineRun σ π) (s : TimerStep σ π) : (r.act s).1.fired = r.fired := by
  cases s <;> rfl

/-- A step adds the timer that it starts, and drops the one that it takes away. -/
theorem mem_pending_act {s : TimerStep σ π} : e ∈ (r.act s).1.timers.pending ↔
    (∃ delay, s = .start e.value.1 delay e.value.2 ∧
        e = ⟨r.clock.now + delay, r.clock.stamp, e.value⟩) ∨
      (e ∈ r.timers.pending ∧ s.takesAway e.value.1 = false) := by
  cases s with
  | start slot delay memory =>
    refine Timers.mem_pending_start.trans (or_congr ?_ ?_)
    · constructor
      · rintro rfl
        exact ⟨delay, rfl, rfl⟩
      · rintro ⟨delay, hs, he⟩
        obtain ⟨rfl, rfl, rfl⟩ := TimerStep.start.inj hs
        exact he
    · simp [takesAway, eq_comm]
  | cancel slot =>
    have hne : e.value.1 ≠ slot ↔ ¬ slot = e.value.1 := ne_comm
    simp [act, Timers.pending_cancel, takesAway, hne]
  | cancelAll => simp [act, Timers.cancelAll, Timers.pending, Agenda.empty, takesAway]
  | isActive slot => simp [act, takesAway]
  | sleep delay => simp [act, takesAway]

theorem fst_step (r : DeadlineRun σ π) (s : TimerStep σ π) :
    (r.step s).1 = (r.act s).1.settle (r.clock.now + s.delay) := rfl

theorem step_sleep (r : DeadlineRun σ π) (delay : Nat) :
    (r.step (.sleep delay)).1 = r.settle (r.clock.now + delay) := rfl

theorem clock_step (r : DeadlineRun σ π) (s : TimerStep σ π) :
    (r.step s).1.clock =
      ⟨r.clock.now + s.delay, r.clock.stamp + if s.isStart then 1 else 0⟩ := by
  rw [fst_step, settle, clock_act]
  simp [Clock.advance]

/-! ## Runs -/

/-- The run after several steps. -/
def run (r : DeadlineRun σ π) (steps : List (TimerStep σ π)) : DeadlineRun σ π :=
  steps.foldl (fun r s => (r.step s).1) r

theorem run_concat (r : DeadlineRun σ π) (steps : List (TimerStep σ π)) (s : TimerStep σ π) :
    r.run (steps ++ [s]) = ((r.run steps).step s).1 := by
  simp [run]

/-- The timers of a run are those that its history names, if it began at the clock `c` and `steps`
have been done. -/
structure Follows (c : Clock) (steps : List (TimerStep σ π)) (r : DeadlineRun σ π) : Prop where
  clock_eq : r.clock = ⟨c.now + duration steps, c.stamp + steps.countP isStart⟩
  /-- What is pending was started, is not yet due and was not taken away. -/
  pending_iff : ∀ e, e ∈ r.timers.pending ↔ ∃ delay after, Starts c steps e delay after ∧
    duration after < delay ∧ Spares e.value.1 delay after
  /-- What has fired was started, is due and was not taken away before. -/
  fired_iff : ∀ e, e ∈ r.fired ↔ ∃ delay after, Starts c steps e delay after ∧
    delay ≤ duration after ∧ Spares e.value.1 delay after

variable {c : Clock} {steps : List (TimerStep σ π)}

theorem follows_nil (c : Clock) : Follows c [] ({ clock := c } : DeadlineRun σ π) where
  clock_eq := rfl
  pending_iff e := by simp [not_starts_nil, Timers.pending, Agenda.empty]
  fired_iff e := by simp [not_starts_nil]

/-- What is pending once a step is done: the timer that it starts, and those that it spares. -/
theorem Follows.mem_pending_act (h : Follows c steps r) {s : TimerStep σ π} :
    e ∈ (r.act s).1.timers.pending ↔
      (∃ d, s = .start e.value.1 d e.value.2 ∧ e = timerAfter c steps e.value.1 d e.value.2) ∨
        ∃ d after, Starts c steps e d after ∧ duration after < d ∧
          Spares e.value.1 d (after ++ [s]) := by
  rw [DeadlineRun.mem_pending_act, h.clock_eq, h.pending_iff]
  refine or_congr Iff.rfl ?_
  constructor
  · rintro ⟨⟨d, after, hstarts, hlt, hspare⟩, htakes⟩
    exact ⟨d, after, hstarts, hlt, spares_concat.2 ⟨hspare, by simp [htakes]⟩⟩
  · rintro ⟨d, after, hstarts, hlt, hspare⟩
    obtain ⟨hspare, htakes⟩ := spares_concat.1 hspare
    exact ⟨⟨d, after, hstarts, hlt, hspare⟩, by
      by_contra hne
      exact absurd (htakes (by simpa using hne)) (Nat.not_le_of_lt hlt)⟩

theorem Follows.step (h : Follows c steps r) (s : TimerStep σ π) :
    Follows c (steps ++ [s]) (r.step s).1 where
  clock_eq := by
    rw [clock_step, h.clock_eq, duration_concat, List.countP_append, List.countP_singleton]
    simp [Nat.add_assoc]
  pending_iff e := by
    rw [fst_step, mem_pending_settle, h.mem_pending_act, h.clock_eq]
    constructor
    · rintro ⟨⟨d, rfl, he⟩ | ⟨d, after, hstarts, hlt, hspare⟩, hdue⟩
      · have hd : 0 < d := by
          rw [he] at hdue
          simpa [timerAfter, delay] using hdue
        exact ⟨d, [], starts_concat.2 (.inl ⟨rfl, rfl, he⟩), hd, spares_nil⟩
      · have := hstarts.due_eq
        exact ⟨d, after ++ [s], starts_concat.2 (.inr ⟨after, rfl, hstarts⟩), by
          rw [duration_concat]
          dsimp only at hdue
          omega, hspare⟩
    · rintro ⟨d, after, hstarts, hlt, hspare⟩
      have hdue := hstarts.due_eq
      rw [duration_concat] at hdue
      refine ⟨?_, by dsimp only; omega⟩
      rcases starts_concat.1 hstarts with ⟨-, hs, he⟩ | ⟨rest, rfl, hrest⟩
      · exact .inl ⟨d, hs, he⟩
      · rw [duration_concat] at hlt
        exact .inr ⟨d, rest, hrest, by omega, hspare⟩
  fired_iff e := by
    rw [fst_step, mem_fired_settle, fired_act, h.fired_iff, h.mem_pending_act, h.clock_eq]
    constructor
    · rintro (⟨d, after, hstarts, hle, hspare⟩ |
        ⟨⟨d, rfl, he⟩ | ⟨d, after, hstarts, hlt, hspare⟩, hdue⟩)
      · refine ⟨d, after ++ [s], starts_concat.2 (.inr ⟨after, rfl, hstarts⟩), ?_,
          spares_concat.2 ⟨hspare, fun _ => hle⟩⟩
        rw [duration_concat]
        omega
      · have hd : d = 0 := by
          rw [he] at hdue
          simp only [timerAfter, delay] at hdue
          omega
        exact ⟨d, [], starts_concat.2 (.inl ⟨rfl, rfl, he⟩), Nat.le_of_eq hd, spares_nil⟩
      · have := hstarts.due_eq
        exact ⟨d, after ++ [s], starts_concat.2 (.inr ⟨after, rfl, hstarts⟩), by
          rw [duration_concat]
          dsimp only at hdue
          omega, hspare⟩
    · rintro ⟨d, after, hstarts, hle, hspare⟩
      have hdue := hstarts.due_eq
      rw [duration_concat] at hdue
      rcases starts_concat.1 hstarts with ⟨rfl, hs, he⟩ | ⟨rest, rfl, hrest⟩
      · refine .inr ⟨.inl ⟨d, hs, he⟩, ?_⟩
        dsimp only
        omega
      · rw [duration_concat] at hle hdue
        by_cases hlt : duration rest < d
        · exact .inr ⟨.inr ⟨d, rest, hrest, hlt, hspare⟩, by dsimp only; omega⟩
        · exact .inl ⟨d, rest, hrest, Nat.le_of_not_lt hlt, (spares_concat.1 hspare).1⟩

theorem follows_run (c : Clock) (steps : List (TimerStep σ π)) :
    Follows c steps (({ clock := c } : DeadlineRun σ π).run steps) := by
  induction steps using List.reverseRecOn with
  | nil => exact follows_nil c
  | append_singleton steps s ih =>
    rw [run_concat]
    exact ih.step s

/-- What is pending lies in the future: all that was due has fired. -/
theorem Follows.later (h : Follows c steps r) : ∀ e ∈ r.timers.pending, r.clock.now < e.due := by
  intro e he
  obtain ⟨d, after, hstarts, hlt, -⟩ := (h.pending_iff e).1 he
  have := hstarts.due_eq
  rw [h.clock_eq]
  dsimp only
  omega

/-- One timer of a run is told from another by its stamp. -/
theorem Follows.stamp_ne (h : Follows c steps r) {a b : Scheduled (σ × π)} (ha : a ∈ r.fired)
    (hb : b ∈ r.timers.pending) : a.stamp ≠ b.stamp := by
  obtain ⟨d, after, ⟨before, hsteps, hea⟩, hle, -⟩ := (h.fired_iff a).1 ha
  obtain ⟨d', after', ⟨before', hsteps', heb⟩, hlt, -⟩ := (h.pending_iff b).1 hb
  intro hstamp
  rw [hea, heb] at hstamp
  obtain ⟨-, hstart, rfl⟩ := eq_of_countP_isStart (hsteps.symm.trans hsteps') rfl rfl
    (Nat.add_left_cancel hstamp)
  obtain ⟨-, rfl, -⟩ := TimerStep.start.inj hstart
  omega

theorem Follows.stamp_lt (h : Follows c steps r) {a : Scheduled (σ × π)} (ha : a ∈ r.fired) :
    a.stamp < r.clock.stamp := by
  obtain ⟨d, after, ⟨before, hsteps, hea⟩, -, -⟩ := (h.fired_iff a).1 ha
  rw [hea, h.clock_eq, hsteps]
  simp [timerAfter, isStart]

theorem Follows.due_le (h : Follows c steps r) {a : Scheduled (σ × π)} (ha : a ∈ r.fired) :
    a.due ≤ r.clock.now := by
  obtain ⟨d, after, hstarts, hle, -⟩ := (h.fired_iff a).1 ha
  have := hstarts.due_eq
  rw [h.clock_eq]
  dsimp only
  omega

/-! ## The order in which timers fire -/

/-- Whether one timer fires before another, and is another. -/
def Precedes (a b : Scheduled (σ × π)) : Prop :=
  a.NotAfter b ∧ a.stamp ≠ b.stamp

theorem fresh_act (h : r.timers.Fresh r.clock) (s : TimerStep σ π) :
    (r.act s).1.timers.Fresh (r.act s).1.clock := by
  cases s with
  | start slot delay memory => exact h.start slot delay memory
  | cancel slot => exact h.cancel slot
  | cancelAll => exact .empty _
  | isActive slot => exact h
  | sleep delay => exact h

/-- What fires in a step follows what has fired before it. -/
theorem Follows.pairwise_step (h : Follows c steps r) (hf : r.timers.Fresh r.clock)
    (hp : r.fired.Pairwise Precedes) (s : TimerStep σ π) :
    (r.step s).1.timers.Fresh (r.step s).1.clock ∧ (r.step s).1.fired.Pairwise Precedes := by
  have hact := fresh_act hf s
  rw [fst_step]
  refine ⟨(hact.after _).of_stamp_eq rfl, ?_⟩
  have hpending : (r.act s).1.timers.pending.Pairwise Precedes :=
    (r.act s).1.timers.agenda.ordered.and (List.pairwise_map.1 hact.stamps)
  rw [settle, fired_act, List.pairwise_append]
  refine ⟨hp, hpending.sublist (List.takeWhile_sublist _), fun a ha b hb => ?_⟩
  have hdue := h.due_le ha
  have hb := (List.takeWhile_sublist _).subset hb
  rcases DeadlineRun.mem_pending_act.1 hb with ⟨d, -, he⟩ | ⟨hb, -⟩
  · -- A timer that this very step starts is due now at the earliest, and has a greater stamp.
    have hstamp := h.stamp_lt ha
    rw [he]
    refine ⟨?_, Nat.ne_of_lt hstamp⟩
    unfold Scheduled.NotAfter
    dsimp only
    omega
  · have hlater := h.later b hb
    exact ⟨.inl (by omega), h.stamp_ne ha hb⟩

theorem pairwise_run (c : Clock) (steps : List (TimerStep σ π)) :
    (({ clock := c } : DeadlineRun σ π).run steps).fired.Pairwise Precedes := by
  suffices h : ∀ r, r = ({ clock := c } : DeadlineRun σ π).run steps →
      r.timers.Fresh r.clock ∧ r.fired.Pairwise Precedes from (h _ rfl).2
  induction steps using List.reverseRecOn with
  | nil =>
    rintro r rfl
    exact ⟨.empty c, .nil⟩
  | append_singleton steps s ih =>
    rintro r rfl
    obtain ⟨hf, hp⟩ := ih _ rfl
    rw [run_concat]
    exact (follows_run c steps).pairwise_step hf hp s

/-! ## Answers -/

/-- A timer counts as pending in a slot until it is due or taken away. -/
theorem Follows.isActive_iff (h : Follows c steps r) (slot : σ) :
    r.timers.isActive slot = true ↔ ∃ before delay memory after,
      steps = before ++ .start slot delay memory :: after ∧ duration after < delay ∧
        ∀ s ∈ after, s.takesAway slot = false := by
  simp only [Timers.isActive, List.any_eq_true, decide_eq_true_eq, h.pending_iff]
  constructor
  · rintro ⟨e, ⟨d, after, ⟨before, hsteps, -⟩, hlt, hspare⟩, rfl⟩
    exact ⟨before, d, e.value.2, after, hsteps, hlt, (spares_of_duration_lt hlt).1 hspare⟩
  · rintro ⟨before, d, memory, after, hsteps, hlt, hall⟩
    exact ⟨timerAfter c before slot d memory, ⟨d, after, ⟨before, hsteps, rfl⟩, hlt,
      (spares_of_duration_lt hlt).2 hall⟩, rfl⟩

/-- A timer has fired once it is due, if nothing took it away before. -/
theorem Follows.mem_fired_iff (h : Follows c steps r) {before after : List (TimerStep σ π)}
    {slot : σ} {delay : Nat} {memory : π}
    (hsteps : steps = before ++ .start slot delay memory :: after) :
    timerAfter c before slot delay memory ∈ r.fired ↔
      delay ≤ duration after ∧ Spares slot delay after := by
  rw [h.fired_iff]
  constructor
  · rintro ⟨d, after', ⟨before', hsteps', he⟩, hle, hspare⟩
    obtain ⟨-, hstart, rfl⟩ := eq_of_countP_isStart (hsteps.symm.trans hsteps') rfl rfl
      (Nat.add_left_cancel (congrArg Scheduled.stamp he))
    obtain ⟨-, rfl, -⟩ := TimerStep.start.inj hstart
    exact ⟨hle, hspare⟩
  · rintro ⟨hle, hspare⟩
    exact ⟨delay, after, ⟨before, hsteps, rfl⟩, hle, hspare⟩

end DeadlineRun

end NavigationBar
