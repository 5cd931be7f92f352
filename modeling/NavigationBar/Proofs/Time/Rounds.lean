import NavigationBar.Proofs.Time.Simulation

/-!
# Timers whose tasks run in rounds

A schedule in which the tasks keep up with the clock: all of them are polled after everything that
is done, and wherever the sleep of one ends. Nothing is late then, and what fires does so in the
order of the list of deadlines (`TimerRun.Matches`). Whatever is done with timers can be done in
this way.
-/

namespace NavigationBar

namespace TimerRun

variable {σ π : Type}

/-- Whether a task, which is live, is asleep and sleeps on. -/
def Rests (r : TimerRun σ π) (t : TimerTask σ π) : Prop :=
  t.token ∉ r.cancelled ∧ ∃ due ∈ t.due, r.now < due

/-- Whether the sleep of a live task has ended. -/
def Expired (r : TimerRun σ π) (t : TimerTask σ π) : Prop :=
  t.token ∉ r.cancelled ∧ t.dueAt r.now ≤ r.now

instance (r : TimerRun σ π) (t : TimerTask σ π) : Decidable (r.Expired t) :=
  inferInstanceAs (Decidable (_ ∧ _))

/-- All tasks sleep on. -/
def Idle (r : TimerRun σ π) : Prop :=
  ∀ t ∈ r.tasks, r.Rests t

theorem Idle.caughtUp {r : TimerRun σ π} (h : r.Idle) : r.CaughtUp := by
  intro t ht _
  obtain ⟨-, due, hdue, hlt⟩ := h t ht
  rwa [TimerTask.dueAt, Option.mem_def.1 hdue]

variable [DecidableEq σ] {r : TimerRun σ π} {d : DeadlineRun σ π} {t : TimerTask σ π}

/-! ## One round -/

theorem Sound.now_poll (h : r.Sound) (token : Nat) (first : Wakeup) :
    (r.poll token first).now = r.now := by
  have hpolled := h.polled token first
  generalize r.poll token first = r' at hpolled
  cases hpolled <;> rfl

theorem Sound.cancelled_poll (h : r.Sound) (token : Nat) (first : Wakeup) :
    (r.poll token first).cancelled = r.cancelled := by
  have hpolled := h.polled token first
  generalize r.poll token first = r' at hpolled
  cases hpolled <;> rfl

theorem Sound.rests_poll (h : r.Sound) (token : Nat) (first : Wakeup) :
    (r.poll token first).Rests t ↔ r.Rests t := by
  rw [Rests, Rests, h.now_poll, h.cancelled_poll]

/-- A task that was polled sleeps on, or is done; the others have not changed. -/
theorem Sound.mem_tasks_poll (h : r.Sound) (token : Nat) (first : Wakeup) :
    (t.token ≠ token → (t ∈ (r.poll token first).tasks ↔ t ∈ r.tasks)) ∧
      (t.token = token → t ∈ (r.poll token first).tasks → r.Rests t) := by
  have hpolled := h.polled token first
  generalize r.poll token first = r' at hpolled
  have hfinish : ∀ t, t ∈ (r.finish token).tasks ↔ t ∈ r.tasks ∧ t.token ≠ token := by
    simp [TimerRun.finish]
  cases hpolled with
  | absent habsent => exact ⟨fun _ => Iff.rfl, fun htoken ht => absurd htoken (habsent t ht)⟩
  | ended =>
    exact ⟨fun hne => (hfinish t).trans (and_iff_left hne),
      fun htoken ht => absurd htoken ((hfinish t).1 ht).2⟩
  | fired =>
    exact ⟨fun hne => (hfinish t).trans (and_iff_left hne),
      fun htoken ht => absurd htoken ((hfinish t).1 ht).2⟩
  | asleep u hu htoken hlt =>
    simp only [TimerRun.doze, List.mem_map]
    constructor
    · intro hne
      constructor
      · rintro ⟨v, hv, rfl⟩
        rw [TimerTask.token_asleep] at hne
        rwa [TimerTask.asleep, if_neg hne]
      · exact fun ht => ⟨t, ht, by rw [TimerTask.asleep, if_neg hne]⟩
    · rintro ht ⟨v, hv, rfl⟩
      rw [TimerTask.token_asleep] at ht
      obtain rfl := h.eq_of_token hu.1 hv (htoken.trans ht.symm)
      refine ⟨by simpa using hu.2, ?_⟩
      simpa [TimerTask.asleep, ht] using hlt

/-- When a task is polled whose timer is due, the timer fires. -/
theorem Mirrors.fired_poll (h : r.Mirrors d) (ht : t ∈ r.tasks) (first : Wakeup) :
    (r.poll t.token first).fired = r.fired ++
      if r.Expired t then [t.scheduled r.now] else [] := by
  have hpolled := h.polled t.token first
  generalize r.poll t.token first = r' at hpolled
  cases hpolled with
  | absent habsent => exact absurd rfl (habsent t ht)
  | ended hcancelled =>
    rw [if_neg fun hlive => hlive.1 hcancelled, List.append_nil]
    rfl
  | fired u hu htoken hdue =>
    obtain rfl := h.eq_of_token hu.1 ht htoken
    rw [if_pos ⟨hu.2, hdue⟩, TimerTask.scheduled, h.dueAt_eq hu hdue]
    rfl
  | asleep u hu htoken hlt =>
    obtain rfl := h.eq_of_token hu.1 ht htoken
    rw [if_neg fun hlive => Nat.not_lt_of_le hlive.2 hlt, List.append_nil]
    rfl

theorem Mirrors.pollEach (h : r.Mirrors d) (tokens : List Nat) : (r.pollEach tokens).Mirrors d := by
  induction tokens generalizing r with
  | nil => exact h
  | cons token tokens ih => exact ih (h.poll token .token)

theorem Sound.now_pollEach (h : r.Sound) (tokens : List Nat) : (r.pollEach tokens).now = r.now := by
  induction tokens generalizing r with
  | nil => rfl
  | cons token tokens ih => exact (ih (h.poll token .token)).trans (h.now_poll token .token)

theorem Sound.cancelled_pollEach (h : r.Sound) (tokens : List Nat) :
    (r.pollEach tokens).cancelled = r.cancelled := by
  induction tokens generalizing r with
  | nil => rfl
  | cons token tokens ih =>
    exact (ih (h.poll token .token)).trans (h.cancelled_poll token .token)

/-- Tasks that were polled sleep on, or are done; the others have not changed. -/
theorem Sound.mem_tasks_pollEach (h : r.Sound) {tokens : List Nat}
    (ht : t ∈ (r.pollEach tokens).tasks) : r.Rests t ∨ (t ∈ r.tasks ∧ t.token ∉ tokens) := by
  induction tokens generalizing r with
  | nil => exact .inr ⟨ht, List.not_mem_nil⟩
  | cons token tokens ih =>
    obtain ⟨hother, hself⟩ := h.mem_tasks_poll (t := t) token .token
    rcases ih (h.poll token .token) ht with hrests | ⟨hmem, htokens⟩
    · exact .inl ((h.rests_poll token .token).1 hrests)
    · by_cases htoken : t.token = token
      · exact .inl (hself htoken hmem)
      · exact .inr ⟨(hother htoken).1 hmem, by simp [htoken, htokens]⟩

/-- What a list of polls makes fire. -/
theorem Mirrors.fired_pollEach (h : r.Mirrors d) {l : List (TimerTask σ π)}
    (hl : ∀ t ∈ l, t ∈ r.tasks) (hnodup : (l.map TimerTask.token).Nodup) :
    (r.pollEach (l.map TimerTask.token)).fired = r.fired ++
      (l.filter fun t => r.Expired t).map (TimerTask.scheduled · r.now) := by
  induction l generalizing r with
  | nil => exact (List.append_nil _).symm
  | cons t l ih =>
    rw [List.map_cons, List.nodup_cons] at hnodup
    have hmem : ∀ u ∈ l, u ∈ (r.poll t.token .token).tasks := by
      intro u hu
      have hne : u.token ≠ t.token := fun heq => hnodup.1 (heq ▸ List.mem_map_of_mem hu)
      exact ((h.mem_tasks_poll t.token .token).1 hne).2 (hl u (List.mem_cons_of_mem t hu))
    have hrest := ih (h.poll t.token .token) hmem hnodup.2
    have hexpired : ∀ u, (r.poll t.token .token).Expired u ↔ r.Expired u := by
      intro u
      rw [Expired, Expired, h.now_poll, h.cancelled_poll]
    simp only [h.now_poll, hexpired, h.fired_poll (hl t List.mem_cons_self)] at hrest
    refine hrest.trans ?_
    by_cases ht : r.Expired t
    · rw [if_pos ht, List.filter_cons_of_pos (by simpa using ht), List.append_assoc]
      rfl
    · rw [if_neg ht, List.filter_cons_of_neg (by simpa using ht), List.append_nil]

/-- After a round all tasks sleep on. -/
theorem Sound.idle_round (h : r.Sound) : r.round.Idle := by
  intro t ht
  rw [Rests, round, h.now_pollEach, h.cancelled_pollEach]
  rcases h.mem_tasks_pollEach ht with hrests | ⟨hmem, htoken⟩
  · exact hrests
  · exact absurd (List.mem_map_of_mem hmem) htoken

/-- The timers that a round makes fire. -/
def overdue (r : TimerRun σ π) : List (Scheduled (σ × π)) :=
  (r.tasks.filter fun t => r.Expired t).map (TimerTask.scheduled · r.now)

theorem Mirrors.fired_round (h : r.Mirrors d) : r.round.fired = r.fired ++ r.overdue :=
  h.fired_pollEach (fun _ ht => ht)
    (List.pairwise_map.2 (h.ordered.imp fun hlt => Nat.ne_of_lt hlt.1))

/-! ## Rounds in step with the list -/

/-- A list of deadlines does what the tasks do, and nothing is left to be polled. -/
structure Matches (r : TimerRun σ π) (d : DeadlineRun σ π) : Prop extends r.Mirrors d where
  idle : r.Idle
  /-- The same timers have fired, in the same order. -/
  fired_eq : r.fired = d.fired

open DeadlineRun (Precedes)

omit [DecidableEq σ] in
theorem precedes_antisymm {a b : Scheduled (σ × π)} (hab : Precedes a b) (hba : Precedes b a) :
    a = b := by
  obtain ⟨hab, hne⟩ := hab
  obtain ⟨hba, -⟩ := hba
  unfold Scheduled.NotAfter at hab hba
  omega

omit [DecidableEq σ] in
theorem nodup_of_pairwise_precedes {l : List (Scheduled (σ × π))} (h : l.Pairwise Precedes) :
    l.Nodup :=
  h.imp fun hab heq => hab.2 (congrArg Scheduled.stamp heq)

omit [DecidableEq σ] in
theorem mem_overdue {e : Scheduled (σ × π)} : e ∈ r.overdue ↔ r.Awaits e ∧ e.due ≤ r.now := by
  simp only [overdue, List.mem_map, List.mem_filter, decide_eq_true_eq]
  constructor
  · rintro ⟨t, ⟨ht, hlive, hdue⟩, rfl⟩
    exact ⟨⟨t, ⟨ht, hlive⟩, rfl⟩, hdue⟩
  · rintro ⟨⟨t, ht, rfl⟩, hdue⟩
    exact ⟨t, ⟨ht.1, ht.2, hdue⟩, rfl⟩

/-- Timers that are due at the same time fire in the order of their starts. -/
theorem Mirrors.pairwise_overdue (h : r.Mirrors d) : r.overdue.Pairwise Precedes := by
  refine List.pairwise_map.2 ((h.ordered.filter _).imp_of_mem fun {t u} ht hu hlt => ?_)
  have hdue : ∀ v ∈ r.tasks.filter fun t => r.Expired t, v.dueAt r.now = r.now := by
    intro v hv
    simp only [List.mem_filter, decide_eq_true_eq] at hv
    obtain ⟨hv, hlive, hdue⟩ := hv
    exact h.dueAt_eq ⟨hv, hlive⟩ hdue
  exact ⟨.inr ⟨(hdue t ht).trans (hdue u hu).symm, Nat.le_of_lt hlt.2⟩, Nat.ne_of_lt hlt.2⟩

/-- A round makes the tasks catch up with the list, if all that fired before is in the list. -/
theorem Mirrors.round (h : r.Mirrors d) (hsofar : r.fired <+: d.fired)
    (hordered : d.fired.Pairwise Precedes) : r.round.Matches d := by
  refine ⟨h.pollEach _, h.idle_round, ?_⟩
  obtain ⟨new, hnew⟩ := hsofar
  rw [← hnew, List.pairwise_append] at hordered
  obtain ⟨-, hordered, hfresh⟩ := hordered
  have hmem : ∀ e, e ∈ r.overdue ↔ e ∈ new := by
    intro e
    have hfired := h.fired_iff e
    rw [← hnew, List.mem_append, ← mem_overdue] at hfired
    constructor
    · intro he
      rcases hfired.2 (.inr he) with hold | hnew
      · obtain ⟨⟨t, ht, rfl⟩, -⟩ := mem_overdue.1 he
        exact absurd (List.mem_map_of_mem hold) (h.unfired t ht.1)
      · exact hnew
    · intro he
      rcases hfired.1 (.inr he) with hold | hdue
      · exact absurd rfl (hfresh e hold e he).2
      · exact hdue
  -- Both are in the order of deadlines and of starts, so that they are the same list.
  have hperm : r.overdue.Perm new :=
    (List.perm_ext_iff_of_nodup (nodup_of_pairwise_precedes h.pairwise_overdue)
      (nodup_of_pairwise_precedes hordered)).2 hmem
  have heq := hperm.eq_of_pairwise (fun _ _ _ _ => precedes_antisymm) h.pairwise_overdue hordered
  rw [h.fired_round, ← hnew, ← heq]

/-! ## Going from alarm to alarm -/

/-- Where the list has no deadline before some time, the tasks are asleep until then. -/
theorem Matches.asleepFor (h : r.Matches d) {time : Nat}
    (htime : ∀ e ∈ d.timers.pending, time ≤ e.due) : r.AsleepFor (time - r.now) := by
  intro t ht hlive
  obtain ⟨-, due, hdue, hlt⟩ := h.idle t ht
  have hscheduled : (t.scheduled r.now).due = due := by
    rw [TimerTask.scheduled, TimerTask.dueAt, Option.mem_def.1 hdue]
    rfl
  have hpending := htime _ ((h.pending_iff _).2 ⟨⟨t, ⟨ht, hlive⟩, rfl⟩, hscheduled ▸ hlt⟩)
  rw [hscheduled] at hpending
  exact ⟨due, hdue, by omega⟩

/-- The clock goes on to a time before which the list has no deadline, and the tasks run then. -/
theorem Matches.visit_one (h : r.Matches d) {time : Nat} (hle : r.now ≤ time)
    (htime : ∀ e ∈ d.timers.pending, time ≤ e.due)
    (hordered : (d.settle time).fired.Pairwise Precedes) :
    (r.act (.sleep (time - r.now))).1.round.Matches (d.settle time) := by
  have hmirrors := h.act_sleep (h.asleepFor htime)
  have hnow : d.clock.now + (time - r.now) = time := by
    rw [h.clock_eq]
    dsimp only
    omega
  rw [DeadlineRun.step_sleep, hnow] at hmirrors
  refine hmirrors.round ?_ hordered
  rw [fired_act, h.fired_eq]
  exact List.prefix_append _ _

/-- The clock stops wherever the list has a deadline. -/
theorem Matches.visit (h : r.Matches d) {times : List Nat} {stop : Nat}
    (hsorted : (times ++ [stop]).Pairwise (· ≤ ·)) (hle : ∀ time ∈ times ++ [stop], r.now ≤ time)
    (hdues : ∀ e ∈ d.timers.pending, e.due ∈ times ∨ stop < e.due)
    (hordered : (d.settle stop).fired.Pairwise Precedes) :
    (r.visit (times ++ [stop])).Matches (d.settle stop) := by
  induction times generalizing r d with
  | nil =>
    refine h.visit_one (hle stop List.mem_cons_self) (fun e he => ?_) hordered
    exact Nat.le_of_lt ((hdues e he).resolve_left List.not_mem_nil)
  | cons time times ih =>
    rw [List.cons_append, List.pairwise_cons] at hsorted
    obtain ⟨htime, hsorted⟩ := hsorted
    have hstop : time ≤ stop := htime stop (by simp)
    have hsettle := d.settle_settle hstop
    have hfired : (d.settle time).fired <+: (d.settle stop).fired :=
      ⟨_, congrArg DeadlineRun.fired hsettle⟩
    have htime' : ∀ e ∈ d.timers.pending, time ≤ e.due := by
      intro e he
      rcases hdues e he with hdue | hdue
      · rcases List.mem_cons.1 hdue with hdue | hdue
        · exact Nat.le_of_eq hdue.symm
        · exact htime _ (List.mem_append_left _ hdue)
      · exact Nat.le_of_lt (Nat.lt_of_le_of_lt hstop hdue)
    have hfirst := h.visit_one (hle time List.mem_cons_self) htime'
      (hordered.sublist hfired.sublist)
    have hnow : (r.act (.sleep (time - r.now))).1.round.now = time := by
      have hclock := congrArg Clock.now hfirst.clock_eq
      have hle := hle time List.mem_cons_self
      simpa [DeadlineRun.settle, Clock.advance, h.clock_eq, hle] using hclock.symm
    refine hsettle ▸ ih hfirst hsorted (fun x hx => hnow.le.trans (htime x hx)) (fun e he => ?_)
      (hsettle ▸ hordered)
    obtain ⟨he, hlt⟩ := DeadlineRun.mem_pending_settle.1 he
    refine (hdues e he).imp_left fun hdue => ?_
    exact (List.mem_cons.1 hdue).resolve_left fun heq => Nat.lt_irrefl _ (heq ▸ hlt)

/-! ## Steps and runs -/

omit [DecidableEq σ] in
theorem mem_alarms {time due : Nat} : due ∈ r.alarms time ↔
    ∃ t ∈ r.tasks, t.dueAt r.now = due ∧ due ≤ time := by
  rw [alarms, Agenda.due, Agenda.takeWhile, Scheduled.takeWhile_eq_filter (Agenda.ordered _)]
  simp only [List.mem_map, List.mem_filter, Agenda.mem_ofList, decide_eq_true_eq]
  constructor
  · rintro ⟨-, ⟨⟨t, ht, rfl⟩, hle⟩, rfl⟩
    exact ⟨t, ht, rfl, hle⟩
  · rintro ⟨t, ht, rfl, hle⟩
    exact ⟨_, ⟨⟨t, ht, rfl⟩, hle⟩, rfl⟩

omit [DecidableEq σ] in
theorem pairwise_alarms (r : TimerRun σ π) (time : Nat) : (r.alarms time).Pairwise (· ≤ ·) := by
  refine List.pairwise_map.2 (((Agenda.ordered _).sublist (List.takeWhile_sublist _)).imp ?_)
  intro a b hab
  unfold Scheduled.NotAfter at hab
  omega

/-- Whatever is done, and however long it takes: rounds of polls make the timers do what a list of
deadlines does. -/
theorem Matches.step (h : r.Matches d) {s : TimerStep σ π}
    (hordered : (d.step s).1.fired.Pairwise Precedes) :
    (r.step s).1.Matches (d.step s).1 ∧ (r.step s).2 = (d.step s).2 := by
  have hfired : (r.act s).1.fired <+: (d.step s).1.fired := by
    rw [fired_act, h.fired_eq, DeadlineRun.fst_step, DeadlineRun.settle, DeadlineRun.fired_act]
    exact List.prefix_append _ _
  have hround : (r.act s).1.now = r.now → (r.act s).1.round.Matches (d.step s).1 := fun hnow =>
    (h.act_of_caughtUp h.idle.caughtUp hnow).round hfired hordered
  cases s with
  | sleep delay =>
    refine ⟨?_, rfl⟩
    have hnow : d.clock.now = r.now := by rw [h.clock_eq]
    rw [DeadlineRun.step_sleep, hnow] at hordered ⊢
    refine h.visit ?_ ?_ ?_ hordered
    · rw [List.pairwise_append]
      refine ⟨r.pairwise_alarms _, List.pairwise_singleton _ _, fun due hdue stop hstop => ?_⟩
      obtain ⟨-, -, -, hle⟩ := mem_alarms.1 hdue
      rwa [List.mem_singleton.1 hstop]
    · intro time htime
      rcases List.mem_append.1 htime with halarm | hstop
      · obtain ⟨t, ht, rfl, -⟩ := mem_alarms.1 halarm
        exact Nat.le_of_lt (h.idle.caughtUp t ht (h.idle t ht).1)
      · rw [List.mem_singleton.1 hstop]
        exact Nat.le_add_right _ _
    · intro e he
      obtain ⟨⟨t, ht, rfl⟩, -⟩ := (h.pending_iff e).1 he
      by_cases hle : t.dueAt r.now ≤ r.now + delay
      · exact .inl (mem_alarms.2 ⟨t, ht.1, rfl, hle⟩)
      · exact .inr (Nat.lt_of_not_le hle)
  | start slot delay memory => exact ⟨hround (now_act r _), rfl⟩
  | cancel slot => exact ⟨hround (now_act r _), h.snd_act h.idle.caughtUp (.cancel slot)⟩
  | cancelAll => exact ⟨hround (now_act r _), rfl⟩
  | isActive slot => exact ⟨hround (now_act r _), h.snd_act h.idle.caughtUp (.isActive slot)⟩

/-- The run after several steps. -/
def run (r : TimerRun σ π) (steps : List (TimerStep σ π)) : TimerRun σ π :=
  steps.foldl (fun r s => (r.step s).1) r

/-- Slots and sleeping tasks come to a list of deadlines, whatever is done with the timers. -/
theorem matches_run (start : Nat) (steps : List (TimerStep σ π)) :
    (({ now := start } : TimerRun σ π).run steps).Matches
      (({ clock := ⟨start, 1⟩ } : DeadlineRun σ π).run steps) := by
  induction steps using List.reverseRecOn with
  | nil => exact ⟨mirrors_init start, by simp [Idle, run], rfl⟩
  | append_singleton steps s ih =>
    have hordered := DeadlineRun.pairwise_run ⟨start, 1⟩ (steps ++ [s])
    rw [DeadlineRun.run_concat] at hordered ⊢
    have hrun : ∀ r : TimerRun σ π, r.run (steps ++ [s]) = ((r.run steps).step s).1 := by
      simp [run]
    rw [hrun]
    exact (ih.step hordered).1

end TimerRun

end NavigationBar
