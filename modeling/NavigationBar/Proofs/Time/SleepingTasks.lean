import Mathlib.Data.List.Nodup
import NavigationBar.Proofs.Time.FiredTimers

/-!
# Slots, generations and sleeping tasks

Whatever the schedule, the slots hold the tokens and the generations of exactly those tasks that are
not done and were not cancelled (`TimerRun.Sound`). So there are four things that can become of a
run when a task is polled (`TimerRun.Polled`): there is no such task; or it was cancelled, and is
done without a trace; or its timer fires; or it sleeps on. A task that wakes up although it was
cancelled or replaced finds another generation in its slot, or none, and leaves it alone.
-/

namespace NavigationBar

namespace SlotMap

variable {σ α : Type}

section

variable [DecidableEq σ]

theorem get?_eq_some_iff {m : SlotMap σ α} {slot : σ} {a : α} :
    m.get? slot = some a ↔ (slot, a) ∈ m.entries := by
  constructor
  · intro h
    obtain ⟨e, he, rfl⟩ := Option.map_eq_some_iff.1 h
    obtain rfl : e.1 = slot := by simpa using List.find?_some he
    exact List.mem_of_find?_eq_some he
  · intro h
    have hfind : (m.entries.find? fun e => e.1 = slot).isSome := by
      simp only [List.find?_isSome, decide_eq_true_eq]
      exact ⟨_, h, rfl⟩
    obtain ⟨e, he⟩ := Option.isSome_iff_exists.1 hfind
    have hslot : e.1 = slot := by simpa using List.find?_some he
    rw [get?, he, List.inj_on_of_nodup_map m.distinct (List.mem_of_find?_eq_some he) h hslot]
    rfl

@[simp]
theorem get?_empty (slot : σ) : (empty : SlotMap σ α).get? slot = none := rfl

@[simp]
theorem get?_erase (m : SlotMap σ α) (slot other : σ) :
    (m.erase slot).get? other = if other = slot then none else m.get? other := by
  ext a
  split
  · rename_i h
    simp [get?_eq_some_iff, erase, h]
  · rename_i h
    simp [get?_eq_some_iff, erase, h]

@[simp]
theorem get?_insert (m : SlotMap σ α) (slot other : σ) (a : α) :
    (m.insert slot a).get? other = if other = slot then some a else m.get? other := by
  by_cases h : other = slot
  · simp [get?, insert, h]
  · have hne : ¬ slot = other := fun heq => h heq.symm
    have herase := get?_erase m slot other
    simp only [h, if_false] at herase ⊢
    rw [← herase]
    simp [get?, insert, hne]

end

end SlotMap

/-! ## Tasks that sleep -/

namespace TimerTask

variable {σ π : Type} (t : TimerTask σ π) (token now : Nat)

@[simp]
theorem slot_asleep : (t.asleep token now).slot = t.slot := by
  unfold asleep
  split <;> rfl

@[simp]
theorem generation_asleep : (t.asleep token now).generation = t.generation := by
  unfold asleep
  split <;> rfl

@[simp]
theorem token_asleep : (t.asleep token now).token = t.token := by
  unfold asleep
  split <;> rfl

@[simp]
theorem scheduled_asleep : (t.asleep token now).scheduled now = t.scheduled now := by
  unfold asleep
  split <;> rfl

end TimerTask

/-! ## Schedules -/

/-- What happens to timers: something is done with them, or a task of theirs is polled. -/
inductive TimerEvent (σ π : Type) where
  /-- Something is done, while no task runs. -/
  | act (s : TimerStep σ π)
  /-- The task that has a token is polled, and looks at one thing first. -/
  | poll (token : Nat) (first : Wakeup)

/-- What is done with the timers in the course of a schedule. -/
def TimerEvent.steps {σ π : Type} : List (TimerEvent σ π) → List (TimerStep σ π)
  | [] => []
  | .act s :: events => s :: steps events
  | .poll .. :: events => steps events

namespace TimerRun

open TimerStep

variable {σ π : Type}

/-- Whether a task is not done, nor cancelled. -/
def Live (r : TimerRun σ π) (t : TimerTask σ π) : Prop :=
  t ∈ r.tasks ∧ t.token ∉ r.cancelled

variable [DecidableEq σ]

/-- Lets one thing happen. -/
def happen (r : TimerRun σ π) : TimerEvent σ π → TimerRun σ π
  | .act s => (r.act s).1
  | .poll token first => r.poll token first

/-- Lets one thing happen after the other. -/
def replay (r : TimerRun σ π) (events : List (TimerEvent σ π)) : TimerRun σ π :=
  events.foldl happen r

/-! ## The invariant -/

/-- The slots hold what belongs to the live tasks, and no two tasks share a number. -/
structure Sound (r : TimerRun σ π) : Prop where
  /-- Tasks stand in the order in which they were spawned. -/
  ordered : r.tasks.Pairwise fun t u => t.token < u.token ∧ t.generation < u.generation
  /-- Tokens are older than the next one. -/
  token_lt : ∀ t ∈ r.tasks, t.token < r.nextToken
  /-- So are those that were cancelled. -/
  cancelled_lt : ∀ token ∈ r.cancelled, token < r.nextToken
  /-- No timer has fired twice. -/
  once : (r.fired.map Scheduled.stamp).Nodup
  /-- The timer of a task has not fired. -/
  unfired : ∀ t ∈ r.tasks, t.generation ∉ r.fired.map Scheduled.stamp
  /-- Generations are older than the next one. -/
  generation_lt : ∀ t ∈ r.tasks, t.generation < r.generation
  /-- So are those of the timers that have fired. -/
  stamp_lt : ∀ stamp ∈ r.fired.map Scheduled.stamp, stamp < r.generation
  /-- A slot holds the token and the generation of a live task, and those of every live task. -/
  get?_iff : ∀ slot entry, r.slots.get? slot = some entry ↔
    ∃ t, r.Live t ∧ t.slot = slot ∧ entry = { token := t.token, generation := t.generation }

theorem sound_init (start : Nat) : ({ now := start } : TimerRun σ π).Sound where
  ordered := .nil
  token_lt := by simp
  cancelled_lt := by simp
  once := .nil
  unfired := by simp
  generation_lt := by simp
  stamp_lt := by simp
  get?_iff := by simp [Live]

variable {r : TimerRun σ π} {t u : TimerTask σ π}

/-- A task is known by its token, and by its generation. -/
theorem Sound.eq_of_token (h : r.Sound) (ht : t ∈ r.tasks) (hu : u ∈ r.tasks)
    (htoken : t.token = u.token) : t = u := by
  have hnodup : (r.tasks.map TimerTask.token).Nodup :=
    List.pairwise_map.2 (h.ordered.imp fun hlt => Nat.ne_of_lt hlt.1)
  exact List.inj_on_of_nodup_map hnodup ht hu htoken

theorem Sound.eq_of_generation (h : r.Sound) (ht : t ∈ r.tasks) (hu : u ∈ r.tasks)
    (hgeneration : t.generation = u.generation) : t = u := by
  have hnodup : (r.tasks.map TimerTask.generation).Nodup :=
    List.pairwise_map.2 (h.ordered.imp fun hlt => Nat.ne_of_lt hlt.2)
  exact List.inj_on_of_nodup_map hnodup ht hu hgeneration

theorem Sound.get?_slot (h : r.Sound) (ht : r.Live t) :
    r.slots.get? t.slot = some { token := t.token, generation := t.generation } :=
  (h.get?_iff _ _).2 ⟨t, ht, rfl, rfl⟩

/-- Live tasks do not share a slot. -/
theorem Sound.eq_of_slot (h : r.Sound) (ht : r.Live t) (hu : r.Live u) (hslot : t.slot = u.slot) :
    t = u := by
  have hget := h.get?_slot ht
  rw [hslot, h.get?_slot hu, Option.some.injEq, TimerEntry.mk.injEq] at hget
  exact h.eq_of_token ht.1 hu.1 hget.1.symm

/-- A slot that holds the generation of a task holds it because the task is live. -/
theorem Sound.live_of_generation (h : r.Sound) (ht : t ∈ r.tasks) {entry : TimerEntry}
    (hget : r.slots.get? t.slot = some entry) (hgeneration : entry.generation = t.generation) :
    r.Live t := by
  obtain ⟨u, hu, -, rfl⟩ := (h.get?_iff _ _).1 hget
  rwa [h.eq_of_generation ht hu.1 hgeneration.symm]

theorem Sound.isActive_iff (h : r.Sound) (slot : σ) :
    r.isActive slot = true ↔ ∃ t, r.Live t ∧ t.slot = slot := by
  rw [isActive, SlotMap.contains, Option.isSome_iff_exists]
  simp only [h.get?_iff]
  constructor
  · rintro ⟨-, t, ht, hslot, -⟩
    exact ⟨t, ht, hslot⟩
  · rintro ⟨t, ht, hslot⟩
    exact ⟨_, t, ht, hslot, rfl⟩

/-! ## What a poll does -/

/-- What becomes of a run when the task that has a token is polled. -/
inductive Polled (r : TimerRun σ π) (token : Nat) : TimerRun σ π → Prop where
  /-- There is no such task. -/
  | absent (h : ∀ t ∈ r.tasks, t.token ≠ token) : Polled r token r
  /-- The task was cancelled, and is done. -/
  | ended (h : token ∈ r.cancelled) : Polled r token (r.finish token)
  /-- The task is live and its sleep has ended: its timer fires. -/
  | fired (t : TimerTask σ π) (ht : r.Live t) (htoken : t.token = token)
    (hdue : t.dueAt r.now ≤ r.now) : Polled r token ((r.finish token).fire t)
  /-- The task is live and sleeps on. -/
  | asleep (t : TimerTask σ π) (ht : r.Live t) (htoken : t.token = token)
    (hlt : r.now < t.dueAt r.now) : Polled r token (r.doze token)

/-- A task that was cancelled leaves the slots alone when it wakes up. -/
theorem Sound.wake_of_cancelled (h : r.Sound) (ht : t ∈ r.tasks)
    (hcancelled : t.token ∈ r.cancelled) :
    (r.finish t.token).wake t = r.finish t.token := by
  unfold wake
  split
  · rename_i entry hget
    rw [if_neg]
    exact fun hgeneration => (h.live_of_generation ht hget hgeneration).2 hcancelled
  · rfl

theorem Sound.wake_of_live (h : r.Sound) (ht : r.Live t) :
    (r.finish t.token).wake t = (r.finish t.token).fire t := by
  have hget : (r.finish t.token).slots.get? t.slot = _ := h.get?_slot ht
  simp only [wake, hget, if_true]

theorem Sound.polled (h : r.Sound) (token : Nat) (first : Wakeup) :
    r.Polled token (r.poll token first) := by
  unfold poll
  split
  · rename_i hfind
    exact .absent (by simpa using hfind)
  · rename_i t hfind
    have ht : t ∈ r.tasks := List.mem_of_find?_eq_some hfind
    obtain rfl : t.token = token := by simpa using List.find?_some hfind
    by_cases hcancelled : t.token ∈ r.cancelled
    · -- Both ways out end the task: a stale one finds that its slot is not its own.
      have hended := Polled.ended (r := r) hcancelled
      split
      · exact hended
      · rename_i hfirst
        have hdue : t.dueAt r.now ≤ r.now := by
          by_contra hlt
          exact hfirst ⟨hcancelled, .inr (Nat.lt_of_not_le hlt)⟩
        rw [if_pos hdue, h.wake_of_cancelled ht hcancelled]
        exact hended
    · rw [if_neg fun hc => hcancelled hc.1]
      split
      · rename_i hdue
        rw [h.wake_of_live ⟨ht, hcancelled⟩]
        exact .fired t ⟨ht, hcancelled⟩ rfl hdue
      · rename_i hdue
        exact .asleep t ⟨ht, hcancelled⟩ rfl (Nat.lt_of_not_le hdue)

/-- A task that wakes up late, after its timer was cancelled or replaced, neither fires nor touches
the slots. -/
theorem Sound.poll_of_cancelled (h : r.Sound) {token : Nat} (hcancelled : token ∈ r.cancelled)
    (first : Wakeup) :
    (r.poll token first).slots = r.slots ∧ (r.poll token first).fired = r.fired := by
  have hpolled := h.polled token first
  generalize r.poll token first = r' at hpolled
  cases hpolled with
  | absent => exact ⟨rfl, rfl⟩
  | ended => exact ⟨rfl, rfl⟩
  | fired t ht htoken => exact absurd (htoken ▸ hcancelled) ht.2
  | asleep => exact ⟨rfl, rfl⟩

/-! ## Live tasks after a poll -/

omit [DecidableEq σ] in
theorem live_finish {token : Nat} : (r.finish token).Live t ↔ r.Live t ∧ t.token ≠ token := by
  simp only [Live, finish, List.mem_filter, decide_eq_true_eq]
  exact and_right_comm

omit [DecidableEq σ] in
/-- A cancelled task is not live, so that nothing changes when it is done. -/
theorem live_finish_of_cancelled {token : Nat} (h : token ∈ r.cancelled) :
    (r.finish token).Live t ↔ r.Live t := by
  rw [live_finish, and_iff_left_iff_imp]
  rintro ht rfl
  exact ht.2 h

omit [DecidableEq σ] in
theorem live_doze {token : Nat} :
    (r.doze token).Live t ↔ ∃ u, r.Live u ∧ u.asleep token r.now = t := by
  simp only [Live, doze, List.mem_map]
  constructor
  · rintro ⟨⟨u, hu, rfl⟩, hlive⟩
    exact ⟨u, ⟨hu, by simpa using hlive⟩, rfl⟩
  · rintro ⟨u, ⟨hu, hlive⟩, rfl⟩
    exact ⟨⟨u, hu, rfl⟩, by simpa using hlive⟩

theorem live_fire : ((r.finish t.token).fire t).Live u ↔ r.Live u ∧ u.token ≠ t.token :=
  live_finish

theorem Sound.finish (h : r.Sound) {token : Nat} (hcancelled : token ∈ r.cancelled) :
    (r.finish token).Sound where
  ordered := h.ordered.filter _
  token_lt t ht := h.token_lt t (List.mem_of_mem_filter ht)
  cancelled_lt := h.cancelled_lt
  once := h.once
  unfired t ht := h.unfired t (List.mem_of_mem_filter ht)
  generation_lt t ht := h.generation_lt t (List.mem_of_mem_filter ht)
  stamp_lt := h.stamp_lt
  get?_iff slot entry := by
    simp only [live_finish_of_cancelled hcancelled]
    exact h.get?_iff slot entry

theorem Sound.fire (h : r.Sound) (ht : r.Live t) : ((r.finish t.token).fire t).Sound where
  ordered := h.ordered.filter _
  token_lt u hu := h.token_lt u (List.mem_of_mem_filter hu)
  cancelled_lt := h.cancelled_lt
  once := by
    simp only [TimerRun.fire, List.map_append, List.nodup_append]
    refine ⟨h.once, List.nodup_singleton _, fun stamp hstamp other hother => ?_⟩
    obtain rfl : other = t.generation := by simpa using hother
    exact fun heq => h.unfired t ht.1 (heq ▸ hstamp)
  unfired u hu := by
    obtain ⟨hu, hne⟩ := List.mem_filter.1 hu
    simp only [TimerRun.fire, List.map_append, List.mem_append, not_or]
    refine ⟨h.unfired u hu, fun hmem => ?_⟩
    have hgeneration : u.generation = t.generation := by simpa using hmem
    simp [h.eq_of_generation hu ht.1 hgeneration] at hne
  generation_lt u hu := h.generation_lt u (List.mem_of_mem_filter hu)
  stamp_lt stamp hstamp := by
    simp only [TimerRun.fire, List.map_append, List.mem_append] at hstamp
    rcases hstamp with hstamp | hstamp
    · exact h.stamp_lt stamp hstamp
    · obtain rfl : stamp = t.generation := by simpa using hstamp
      exact h.generation_lt t ht.1
  get?_iff slot entry := by
    simp only [live_fire]
    rw [TimerRun.fire, SlotMap.get?_erase]
    split
    · rename_i hslot
      simp only [reduceCtorEq, false_iff]
      rintro ⟨u, ⟨hu, hne⟩, hslot', -⟩
      exact hne (congrArg _ (h.eq_of_slot hu ht (hslot'.trans hslot)))
    · rename_i hslot
      refine (h.get?_iff slot entry).trans (exists_congr fun u => and_congr_left ?_)
      rintro ⟨rfl, -⟩
      refine (and_iff_left_of_imp fun hu htoken => hslot ?_).symm
      rw [h.eq_of_token hu.1 ht.1 htoken]

theorem Sound.doze (h : r.Sound) (token : Nat) : (r.doze token).Sound where
  ordered := List.pairwise_map.2 (h.ordered.imp fun hlt => by simpa using hlt)
  token_lt t ht := by
    obtain ⟨u, hu, rfl⟩ := List.mem_map.1 ht
    rw [TimerTask.token_asleep]
    exact h.token_lt u hu
  cancelled_lt := h.cancelled_lt
  once := h.once
  unfired t ht := by
    obtain ⟨u, hu, rfl⟩ := List.mem_map.1 ht
    rw [TimerTask.generation_asleep]
    exact h.unfired u hu
  generation_lt t ht := by
    obtain ⟨u, hu, rfl⟩ := List.mem_map.1 ht
    rw [TimerTask.generation_asleep]
    exact h.generation_lt u hu
  stamp_lt := h.stamp_lt
  get?_iff slot entry := by
    have hslots : (r.doze token).slots = r.slots := rfl
    simpa [live_doze, hslots] using h.get?_iff slot entry

theorem Sound.poll (h : r.Sound) (token : Nat) (first : Wakeup) : (r.poll token first).Sound := by
  have hpolled := h.polled token first
  generalize r.poll token first = r' at hpolled
  cases hpolled with
  | absent => exact h
  | ended hcancelled => exact h.finish hcancelled
  | fired t ht htoken =>
    subst htoken
    exact h.fire ht
  | asleep => exact h.doze token

/-! ## What is done with timers -/

/-- One run is another after some slots were emptied and the tokens in them cancelled. -/
structure Emptied (r : TimerRun σ π) (p : σ → Prop) (r' : TimerRun σ π) : Prop where
  rest : r' = { r with slots := r'.slots, cancelled := r'.cancelled }
  get?_iff : ∀ slot entry,
    r'.slots.get? slot = some entry ↔ r.slots.get? slot = some entry ∧ ¬ p slot
  mem_iff : ∀ token, token ∈ r'.cancelled ↔ token ∈ r.cancelled ∨
    ∃ slot entry, p slot ∧ r.slots.get? slot = some entry ∧ entry.token = token

theorem emptied_cancel (r : TimerRun σ π) (slot : σ) :
    r.Emptied (· = slot) (r.cancel slot).1 := by
  cases hget : r.slots.get? slot with
  | none =>
    have hcancel : r.cancel slot = (r, false) := by simp [cancel, hget]
    rw [hcancel]
    refine ⟨rfl, fun other entry => (and_iff_left_of_imp ?_).symm, fun token => ?_⟩
    · rintro hother rfl
      simp [hget] at hother
    · simp [hget]
  | some entry =>
    have hcancel : (r.cancel slot).1 =
        { r with slots := r.slots.erase slot, cancelled := entry.token :: r.cancelled } := by
      simp [cancel, hget]
    rw [hcancel]
    refine ⟨rfl, fun other entry' => ?_, fun token => ?_⟩
    · simp only [SlotMap.get?_erase]
      split
      · rename_i hother
        simp [hother]
      · rename_i hother
        simp [hother]
    · simp [hget, or_comm, eq_comm]

theorem now_cancel {slot : σ} : (r.cancel slot).1.now = r.now := by
  rw [(r.emptied_cancel slot).rest]

theorem generation_cancel {slot : σ} : (r.cancel slot).1.generation = r.generation := by
  rw [(r.emptied_cancel slot).rest]

theorem fired_cancel {slot : σ} : (r.cancel slot).1.fired = r.fired := by
  rw [(r.emptied_cancel slot).rest]

theorem emptied_cancelAll (r : TimerRun σ π) : r.Emptied (fun _ => True) r.cancelAll where
  rest := rfl
  get?_iff := by simp [cancelAll]
  mem_iff token := by
    simp only [cancelAll, List.mem_append, List.mem_map, true_and, SlotMap.get?_eq_some_iff]
    rw [or_comm, Prod.exists]

variable {r' : TimerRun σ π} {p : σ → Prop}

/-- The tasks of the other slots are still live. -/
theorem Sound.live_emptied (h : r.Sound) (he : r.Emptied p r') :
    r'.Live t ↔ r.Live t ∧ ¬ p t.slot := by
  have htasks : r'.tasks = r.tasks := by rw [he.rest]
  rw [Live, htasks, he.mem_iff]
  constructor
  · rintro ⟨ht, hcancelled⟩
    rw [not_or] at hcancelled
    have hlive : r.Live t := ⟨ht, hcancelled.1⟩
    exact ⟨hlive, fun hp => hcancelled.2 ⟨t.slot, _, hp, h.get?_slot hlive, rfl⟩⟩
  · rintro ⟨hlive, hp⟩
    refine ⟨hlive.1, ?_⟩
    rintro (hcancelled | ⟨slot, entry, hslot, hget, htoken⟩)
    · exact hlive.2 hcancelled
    · obtain ⟨u, hu, rfl, rfl⟩ := (h.get?_iff _ _).1 hget
      rw [h.eq_of_token hu.1 hlive.1 htoken] at hslot
      exact hp hslot

theorem Sound.emptied (h : r.Sound) (he : r.Emptied p r') : r'.Sound := by
  have hlive := fun t => h.live_emptied (t := t) he
  have hget := he.get?_iff
  have hmem := he.mem_iff
  rw [he.rest] at hlive hget hmem ⊢
  refine ⟨h.ordered, h.token_lt, fun token htoken => ?_, h.once, h.unfired, h.generation_lt,
    h.stamp_lt, fun slot entry => ?_⟩
  · rcases (hmem token).1 htoken with hcancelled | ⟨slot, entry, -, hentry, rfl⟩
    · exact h.cancelled_lt token hcancelled
    · obtain ⟨u, hu, -, rfl⟩ := (h.get?_iff _ _).1 hentry
      exact h.token_lt u hu.1
  · simp only [hlive, hget, h.get?_iff]
    constructor
    · rintro ⟨⟨t, ht, rfl, rfl⟩, hp⟩
      exact ⟨t, ⟨ht, hp⟩, rfl, rfl⟩
    · rintro ⟨t, ⟨ht, hp⟩, rfl, rfl⟩
      exact ⟨⟨t, ht, rfl, rfl⟩, hp⟩

theorem Sound.live_spawn (h : r.Sound) {slot : σ} {delay : Nat} {memory : π} :
    (r.spawn slot delay memory).Live t ↔ r.Live t ∨ t = r.spawned slot delay memory := by
  simp only [Live, spawn, List.mem_append, List.mem_singleton, or_and_right]
  refine or_congr_right (and_iff_left_of_imp ?_)
  rintro rfl hcancelled
  exact Nat.lt_irrefl _ (h.cancelled_lt _ hcancelled)

theorem Sound.spawn (h : r.Sound) {slot : σ} {delay : Nat} {memory : π}
    (hslot : r.slots.get? slot = none) : (r.spawn slot delay memory).Sound where
  ordered := by
    rw [TimerRun.spawn, List.pairwise_append]
    refine ⟨h.ordered, List.pairwise_singleton _ _, fun t ht u hu => ?_⟩
    obtain rfl := List.mem_singleton.1 hu
    exact ⟨h.token_lt t ht, h.generation_lt t ht⟩
  token_lt t ht := by
    rcases List.mem_append.1 ht with ht | ht
    · exact Nat.lt_succ_of_lt (h.token_lt t ht)
    · obtain rfl := List.mem_singleton.1 ht
      exact Nat.lt_succ_self _
  cancelled_lt token htoken := Nat.lt_succ_of_lt (h.cancelled_lt token htoken)
  once := h.once
  unfired t ht := by
    rcases List.mem_append.1 ht with ht | ht
    · exact h.unfired t ht
    · obtain rfl := List.mem_singleton.1 ht
      exact fun hstamp => Nat.lt_irrefl _ (h.stamp_lt _ hstamp)
  generation_lt t ht := by
    rcases List.mem_append.1 ht with ht | ht
    · exact Nat.lt_succ_of_lt (h.generation_lt t ht)
    · obtain rfl := List.mem_singleton.1 ht
      exact Nat.lt_succ_self _
  stamp_lt stamp hstamp := Nat.lt_succ_of_lt (h.stamp_lt stamp hstamp)
  get?_iff other entry := by
    simp only [h.live_spawn]
    rw [TimerRun.spawn, SlotMap.get?_insert]
    split
    · rename_i hother
      subst hother
      constructor
      · intro hentry
        exact ⟨_, .inr rfl, rfl, (Option.some.inj hentry).symm⟩
      · rintro ⟨t, ht | rfl, ht', rfl⟩
        · simp [← ht', h.get?_slot ht] at hslot
        · rfl
    · rename_i hother
      rw [h.get?_iff]
      refine exists_congr fun t => and_congr_left ?_
      rintro ⟨rfl, -⟩
      refine (or_iff_left_of_imp ?_).symm
      rintro rfl
      exact absurd rfl hother

theorem Sound.start (h : r.Sound) (slot : σ) (delay : Nat) (memory : π) :
    (r.start slot delay memory).Sound :=
  (h.emptied (r.emptied_cancel slot)).spawn <| by
    rw [Option.eq_none_iff_forall_ne_some]
    exact fun entry hentry => (((r.emptied_cancel slot).get?_iff slot entry).1 hentry).2 rfl

theorem Sound.act (h : r.Sound) (s : TimerStep σ π) : (r.act s).1.Sound := by
  cases s with
  | start slot delay memory => exact h.start slot delay memory
  | cancel slot => exact h.emptied (r.emptied_cancel slot)
  | cancelAll => exact h.emptied r.emptied_cancelAll
  | isActive slot => exact h
  | sleep delay => exact ⟨h.ordered, h.token_lt, h.cancelled_lt, h.once, h.unfired, h.generation_lt,
      h.stamp_lt, h.get?_iff⟩

/-- What is done with timers leaves the tasks live whose timers it does not take away, and makes
the one live that it spawns. -/
theorem Sound.live_act (h : r.Sound) {s : TimerStep σ π} : (r.act s).1.Live t ↔
    (r.Live t ∧ s.takesAway t.slot = false) ∨
      ∃ delay, s = .start t.slot delay t.memory ∧ t = r.spawned t.slot delay t.memory := by
  cases s with
  | start slot delay memory =>
    have he := r.emptied_cancel slot
    have hspawned : (r.cancel slot).1.spawned slot delay memory = r.spawned slot delay memory := by
      rw [he.rest]
      rfl
    refine (h.emptied he).live_spawn.trans ?_
    rw [hspawned, h.live_emptied he]
    refine or_congr (and_congr_right fun _ => ?_) ?_
    · simp [takesAway, eq_comm]
    · constructor
      · rintro rfl
        exact ⟨delay, rfl, rfl⟩
      · rintro ⟨delay, hs, ht⟩
        obtain ⟨rfl, rfl, rfl⟩ := TimerStep.start.inj hs
        exact ht
  | cancel slot => simp [TimerRun.act, h.live_emptied (r.emptied_cancel slot), takesAway, eq_comm]
  | cancelAll => simp [TimerRun.act, h.live_emptied r.emptied_cancelAll, takesAway]
  | isActive slot => simp [TimerRun.act, takesAway]
  | sleep delay => simp [TimerRun.act, takesAway, Live]

theorem Sound.happen (h : r.Sound) (event : TimerEvent σ π) : (r.happen event).Sound := by
  cases event with
  | act s => exact h.act s
  | poll token first => exact h.poll token first

/-- Whatever the schedule, no timer fires twice, and the slots hold what belongs to the live tasks.
-/
theorem Sound.replay (h : r.Sound) (events : List (TimerEvent σ π)) : (r.replay events).Sound := by
  induction events generalizing r with
  | nil => exact h
  | cons event events ih => exact ih (h.happen event)

end TimerRun

end NavigationBar
