import NavigationBar.Proofs.Time.SleepingTasks

/-!
# Sleeping tasks as a list of deadlines

As long as the tasks keep up with the clock, timers do what a list of deadlines does. They keep up
if every task has begun its sleep before time passes, and has fired before time passes its end or
anything is done at that time (`TimerRun.Prompt`). Between two such moments tasks are polled in any
order, and as often as the runtime likes; those that were cancelled may linger for as long as it
likes.

The list is ahead of the tasks. It fires a timer at once when it is due, while the task of the timer
has yet to be polled: what has fired in the list is what has fired, or belongs to a live task that
is due (`TimerRun.Mirrors`).
-/

namespace NavigationBar

namespace TimerRun

open TimerStep

variable {σ π : Type}

/-- Everything that is due has fired. -/
def CaughtUp (r : TimerRun σ π) : Prop :=
  ∀ t ∈ r.tasks, t.token ∉ r.cancelled → r.now < t.dueAt r.now

/-- The live tasks are asleep, and sleep for so much longer at least. -/
def AsleepFor (r : TimerRun σ π) (delay : Nat) : Prop :=
  ∀ t ∈ r.tasks, t.token ∉ r.cancelled → ∃ due ∈ t.due, r.now + delay ≤ due

instance (r : TimerRun σ π) : Decidable r.CaughtUp :=
  inferInstanceAs (Decidable (∀ t ∈ r.tasks, _))

instance (r : TimerRun σ π) (delay : Nat) : Decidable (r.AsleepFor delay) :=
  inferInstanceAs (Decidable (∀ t ∈ r.tasks, _))

/-- Whether something may happen now, if the tasks are to keep up with the clock. -/
def InTime (r : TimerRun σ π) : TimerEvent σ π → Prop
  | .poll .. => True
  | .act (.sleep delay) => r.AsleepFor delay
  | .act _ => r.CaughtUp

instance (r : TimerRun σ π) : (event : TimerEvent σ π) → Decidable (r.InTime event)
  | .poll .. => inferInstanceAs (Decidable True)
  | .act (.sleep delay) => inferInstanceAs (Decidable (r.AsleepFor delay))
  | .act (.start ..) => inferInstanceAs (Decidable r.CaughtUp)
  | .act (.cancel _) => inferInstanceAs (Decidable r.CaughtUp)
  | .act .cancelAll => inferInstanceAs (Decidable r.CaughtUp)
  | .act (.isActive _) => inferInstanceAs (Decidable r.CaughtUp)

variable [DecidableEq σ]

/-- In the course of a schedule the tasks keep up with the clock. -/
def Prompt (r : TimerRun σ π) : List (TimerEvent σ π) → Prop
  | [] => True
  | event :: events => r.InTime event ∧ (r.happen event).Prompt events

instance decidablePrompt (r : TimerRun σ π) :
    (events : List (TimerEvent σ π)) → Decidable (r.Prompt events)
  | [] => inferInstanceAs (Decidable True)
  | event :: events =>
    have := decidablePrompt (r.happen event) events
    inferInstanceAs (Decidable (_ ∧ _))

/-! ## What the tasks wait for -/

/-- Whether a live task waits for a timer to fire. -/
def Awaits (r : TimerRun σ π) (e : Scheduled (σ × π)) : Prop :=
  ∃ t, r.Live t ∧ t.scheduled r.now = e

variable {r : TimerRun σ π} {d : DeadlineRun σ π} {t : TimerTask σ π} {e : Scheduled (σ × π)}

omit [DecidableEq σ] in
theorem CaughtUp.now_lt (h : r.CaughtUp) (he : r.Awaits e) : r.now < e.due := by
  obtain ⟨t, ht, rfl⟩ := he
  exact h t ht.1 ht.2

omit [DecidableEq σ] in
theorem AsleepFor.le_due {delay : Nat} (h : r.AsleepFor delay) (he : r.Awaits e) :
    r.now + delay ≤ e.due := by
  obtain ⟨t, ht, rfl⟩ := he
  obtain ⟨due, hdue, hle⟩ := h t ht.1 ht.2
  rw [TimerTask.scheduled, TimerTask.dueAt, Option.mem_def.1 hdue]
  exact hle

omit [DecidableEq σ] in
theorem awaits_finish_of_cancelled {token : Nat} (h : token ∈ r.cancelled) :
    (r.finish token).Awaits e ↔ r.Awaits e :=
  exists_congr fun _ => and_congr_left fun _ => live_finish_of_cancelled h

omit [DecidableEq σ] in
theorem awaits_doze {token : Nat} : (r.doze token).Awaits e ↔ r.Awaits e := by
  have hnow : (r.doze token).now = r.now := rfl
  simp [Awaits, live_doze, hnow]

/-- Once its timer has fired, a task waits for it no more. -/
theorem Sound.awaits_fire (h : r.Sound) (ht : r.Live t) :
    ((r.finish t.token).fire t).Awaits e ↔ r.Awaits e ∧ e ≠ t.scheduled r.now := by
  have hnow : ((r.finish t.token).fire t).now = r.now := rfl
  simp only [Awaits, live_fire, hnow]
  constructor
  · rintro ⟨u, ⟨hu, hne⟩, rfl⟩
    refine ⟨⟨u, hu, rfl⟩, fun heq => hne ?_⟩
    rw [h.eq_of_generation hu.1 ht.1 (congrArg Scheduled.stamp heq)]
  · rintro ⟨⟨u, hu, rfl⟩, hne⟩
    refine ⟨u, ⟨hu, fun htoken => hne ?_⟩, rfl⟩
    rw [h.eq_of_token hu.1 ht.1 htoken]

/-- As long as no time passes, the tasks wait for the timer that is started, and for those that are
not taken away. -/
theorem Sound.awaits_act (h : r.Sound) {s : TimerStep σ π} (hnow : (r.act s).1.now = r.now) :
    (r.act s).1.Awaits e ↔
      (∃ delay, s = .start e.value.1 delay e.value.2 ∧
          e = ⟨r.now + delay, r.generation, e.value⟩) ∨
        (r.Awaits e ∧ s.takesAway e.value.1 = false) := by
  simp only [Awaits, h.live_act, hnow]
  constructor
  · rintro ⟨t, ⟨ht, hs⟩ | ⟨delay, hs, ht⟩, rfl⟩
    · exact .inr ⟨⟨t, ht, rfl⟩, hs⟩
    · refine .inl ⟨delay, hs, ?_⟩
      rw [ht]
      rfl
  · rintro (⟨delay, hs, he⟩ | ⟨⟨t, ht, rfl⟩, hs⟩)
    · refine ⟨r.spawned e.value.1 delay e.value.2, .inr ⟨delay, hs, rfl⟩, ?_⟩
      rw [he]
      rfl
    · exact ⟨t, .inl ⟨ht, hs⟩, rfl⟩

/-- While time passes, tasks that are asleep wait for the same timers. -/
theorem AsleepFor.awaits_act {delay : Nat} (h : r.AsleepFor delay) :
    (r.act (.sleep delay)).1.Awaits e ↔ r.Awaits e := by
  refine exists_congr fun t => and_congr_right fun ht => ?_
  obtain ⟨due, hdue, -⟩ := h t ht.1 ht.2
  simp only [TimerTask.scheduled, TimerTask.dueAt, Option.mem_def.1 hdue, Option.getD_some]

/-! ## The simulation -/

/-- A list of deadlines does what the tasks do, or will do when they are polled. -/
structure Mirrors (r : TimerRun σ π) (d : DeadlineRun σ π) : Prop extends r.Sound where
  clock_eq : d.clock = ⟨r.now, r.generation⟩
  /-- No live task should have been polled before. -/
  now_le : ∀ e, r.Awaits e → r.now ≤ e.due
  /-- The pending timers are those that tasks wait for and that are not due. -/
  pending_iff : ∀ e, e ∈ d.timers.pending ↔ r.Awaits e ∧ r.now < e.due
  /-- The timers that are due have fired, or have a task that is yet to be polled. -/
  fired_iff : ∀ e, e ∈ d.fired ↔ e ∈ r.fired ∨ (r.Awaits e ∧ e.due ≤ r.now)

theorem mirrors_init (start : Nat) :
    ({ now := start } : TimerRun σ π).Mirrors { clock := ⟨start, 1⟩ } where
  toSound := sound_init start
  clock_eq := rfl
  now_le := by simp [Awaits, Live]
  pending_iff := by simp [Awaits, Live, Timers.pending, Agenda.empty]
  fired_iff := by simp [Awaits, Live]

/-- A live task whose sleep has ended is polled at that very time. -/
theorem Mirrors.dueAt_eq (h : r.Mirrors d) (ht : r.Live t) (hdue : t.dueAt r.now ≤ r.now) :
    t.dueAt r.now = r.now :=
  Nat.le_antisymm hdue (h.now_le _ ⟨t, ht, rfl⟩)

/-- The list of deadlines does not see when tasks are polled. -/
theorem Mirrors.poll (h : r.Mirrors d) (token : Nat) (first : Wakeup) :
    (r.poll token first).Mirrors d := by
  have hpolled := h.polled token first
  have hsound := h.toSound.poll token first
  generalize r.poll token first = r' at hpolled hsound
  cases hpolled with
  | absent => exact h
  | ended hcancelled =>
    refine ⟨hsound, h.clock_eq, ?_, ?_, ?_⟩
    all_goals simp only [awaits_finish_of_cancelled hcancelled]
    · exact h.now_le
    · exact h.pending_iff
    · exact h.fired_iff
  | fired t ht htoken hdue =>
    subst htoken
    have hawaits := fun e => h.awaits_fire (e := e) ht
    refine ⟨hsound, h.clock_eq, fun e he => h.now_le e ((hawaits e).1 he).1, fun e => ?_,
      fun e => ?_⟩
    · rw [h.pending_iff, hawaits, and_right_comm]
      refine (and_iff_left_of_imp ?_).symm
      rintro ⟨-, hlt⟩ rfl
      exact Nat.not_lt_of_le hdue hlt
    · have hfired : ((r.finish t.token).fire t).fired = r.fired ++ [t.scheduled r.now] := by
        rw [TimerTask.scheduled, h.dueAt_eq ht hdue]
        rfl
      rw [h.fired_iff, hawaits, hfired, List.mem_append, List.mem_singleton, or_assoc]
      refine or_congr_right ?_
      by_cases he : e = t.scheduled r.now
      · simp only [he, true_or, iff_true]
        exact ⟨⟨t, ht, rfl⟩, hdue⟩
      · simp [he, TimerRun.fire, TimerRun.finish]
  | asleep =>
    refine ⟨hsound, h.clock_eq, ?_, ?_, ?_⟩
    all_goals simp only [awaits_doze]
    · exact h.now_le
    · exact h.pending_iff
    · exact h.fired_iff

/-- Once the tasks have caught up with the clock, the list is not ahead of them. -/
theorem Mirrors.mem_fired_iff (h : r.Mirrors d) (hcaught : r.CaughtUp) :
    e ∈ d.fired ↔ e ∈ r.fired := by
  rw [h.fired_iff]
  refine or_iff_left_of_imp ?_
  rintro ⟨he, hdue⟩
  exact absurd (hcaught.now_lt he) (Nat.not_lt_of_le hdue)

/-- A slot that a live task belongs to is one in which the list has a deadline. -/
theorem Mirrors.isActive_eq (h : r.Mirrors d) (hcaught : r.CaughtUp) (slot : σ) :
    r.isActive slot = d.timers.isActive slot := by
  rw [Bool.eq_iff_iff, h.isActive_iff, Timers.isActive]
  simp only [List.any_eq_true, decide_eq_true_eq, h.pending_iff]
  constructor
  · rintro ⟨t, ht, hslot⟩
    have hawaits : r.Awaits (t.scheduled r.now) := ⟨t, ht, rfl⟩
    exact ⟨_, ⟨hawaits, hcaught.now_lt hawaits⟩, hslot⟩
  · rintro ⟨-, ⟨⟨t, ht, rfl⟩, -⟩, hslot⟩
    exact ⟨t, ht, hslot⟩

theorem snd_cancel (r : TimerRun σ π) (slot : σ) : (r.cancel slot).2 = r.isActive slot := by
  unfold cancel isActive SlotMap.contains
  split
  · rename_i hget
    rw [hget]
    rfl
  · rename_i hget
    rw [hget]
    rfl

/-- As long as everything that is due has fired, a cancel and a question are answered alike. -/
theorem Mirrors.snd_act (h : r.Mirrors d) (hcaught : r.CaughtUp) (s : TimerStep σ π) :
    (r.act s).2 = (d.step s).2 := by
  cases s with
  | cancel slot => exact congrArg some ((r.snd_cancel slot).trans (h.isActive_eq hcaught slot))
  | isActive slot => exact congrArg some (h.isActive_eq hcaught slot)
  | _ => rfl

theorem now_act (r : TimerRun σ π) (s : TimerStep σ π) : (r.act s).1.now = r.now + s.delay := by
  cases s with
  | start slot delay memory => exact now_cancel
  | cancel slot => exact now_cancel
  | _ => rfl

theorem generation_act (r : TimerRun σ π) (s : TimerStep σ π) :
    (r.act s).1.generation = r.generation + if s.isStart then 1 else 0 := by
  cases s with
  | start slot delay memory => exact congrArg (· + 1) generation_cancel
  | cancel slot => exact generation_cancel
  | _ => rfl

theorem fired_act (r : TimerRun σ π) (s : TimerStep σ π) : (r.act s).1.fired = r.fired := by
  cases s with
  | start slot delay memory => exact fired_cancel
  | cancel slot => exact fired_cancel
  | _ => rfl

theorem Mirrors.clock_act (h : r.Mirrors d) (s : TimerStep σ π) :
    (d.step s).1.clock = ⟨(r.act s).1.now, (r.act s).1.generation⟩ := by
  rw [DeadlineRun.clock_step, h.clock_eq, now_act, generation_act]

/-- While time passes up to the end of a sleep, nothing fires but what ends then. -/
theorem Mirrors.act_sleep (h : r.Mirrors d) {delay : Nat} (hs : r.AsleepFor delay) :
    (r.act (.sleep delay)).1.Mirrors (d.step (.sleep delay)).1 := by
  have hnow : d.clock.now = r.now := by rw [h.clock_eq]
  refine ⟨h.toSound.act _, h.clock_act _, fun e he => hs.le_due (hs.awaits_act.1 he), fun e => ?_,
    fun e => ?_⟩
  · rw [DeadlineRun.step_sleep, DeadlineRun.mem_pending_settle, h.pending_iff, hs.awaits_act, hnow,
      and_assoc]
    refine and_congr_right fun _ => and_iff_right_of_imp fun hlt => ?_
    exact Nat.lt_of_le_of_lt (Nat.le_add_right _ _) hlt
  · rw [DeadlineRun.step_sleep, DeadlineRun.mem_fired_settle, h.fired_iff, h.pending_iff,
      hs.awaits_act, hnow, or_assoc]
    refine or_congr_right ?_
    constructor
    · rintro (⟨he, hdue⟩ | ⟨⟨he, -⟩, hdue⟩)
      · exact ⟨he, Nat.le_add_right_of_le hdue⟩
      · exact ⟨he, hdue⟩
    · rintro ⟨he, hdue⟩
      by_cases hlt : r.now < e.due
      · exact .inr ⟨⟨he, hlt⟩, hdue⟩
      · exact .inl ⟨he, Nat.le_of_not_lt hlt⟩

/-- What is done with timers once all that was due has fired is done with the list as well. -/
theorem Mirrors.act_of_caughtUp (h : r.Mirrors d) {s : TimerStep σ π} (hcaught : r.CaughtUp)
    (hnow : (r.act s).1.now = r.now) : (r.act s).1.Mirrors (d.step s).1 := by
  have hclock : d.clock.now = r.now := by rw [h.clock_eq]
  have hdelay : s.delay = 0 := by
    have := r.now_act s
    omega
  have hpending : ∀ e, e ∈ (d.act s).1.timers.pending ↔ (r.act s).1.Awaits e := by
    intro e
    rw [DeadlineRun.mem_pending_act, h.awaits_act hnow, h.clock_eq, h.pending_iff]
    refine or_congr_right (and_congr_left fun _ => and_iff_left_of_imp fun he => ?_)
    exact hcaught.now_lt he
  refine ⟨h.toSound.act s, h.clock_act s, fun e he => ?_, fun e => ?_, fun e => ?_⟩
  · rw [hnow]
    rcases (h.awaits_act hnow).1 he with ⟨delay, -, he⟩ | ⟨he, -⟩
    · rw [he]
      exact Nat.le_add_right _ _
    · exact h.now_le e he
  · rw [DeadlineRun.fst_step, DeadlineRun.mem_pending_settle, hpending, hnow, hclock, hdelay]
    rfl
  · rw [DeadlineRun.fst_step, DeadlineRun.mem_fired_settle, DeadlineRun.fired_act,
      h.mem_fired_iff hcaught, hpending, hnow, hclock, hdelay, fired_act]
    rfl

theorem Mirrors.act (h : r.Mirrors d) {s : TimerStep σ π} (hs : r.InTime (.act s)) :
    (r.act s).1.Mirrors (d.step s).1 := by
  cases s with
  | sleep delay => exact h.act_sleep hs
  | _ => exact h.act_of_caughtUp hs (now_act r _)

/-- Whatever the schedule, as long as the tasks keep up with the clock: timers do what a list of
deadlines does. -/
theorem Mirrors.replay (h : r.Mirrors d) {events : List (TimerEvent σ π)}
    (hprompt : r.Prompt events) :
    (r.replay events).Mirrors (d.run (TimerEvent.steps events)) := by
  induction events generalizing r d with
  | nil => exact h
  | cons event events ih =>
    obtain ⟨hevent, hevents⟩ := hprompt
    cases event with
    | act s => exact ih (h.act hevent) hevents
    | poll token first => exact ih (h.poll token first) hevents

end TimerRun

end NavigationBar
