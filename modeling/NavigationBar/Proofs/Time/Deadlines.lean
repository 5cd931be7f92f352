import Mathlib.Data.List.Nodup
import Mathlib.Data.List.Perm.Basic
import Mathlib.Data.List.TakeWhile
import NavigationBar.Time.Deadlines

/-!
# Deadlines of pending timers

Timers, seen as a partial map from slots to the times at which they fire. This view is sound as long
as no two pending timers share a slot or a stamp (`Timers.Fresh`), which every operation keeps; each
operation then has one law about deadlines.
-/

namespace NavigationBar

namespace Scheduled

variable {α : Type}

theorem perm_insert (a : Scheduled α) (l : List (Scheduled α)) : (insert a l).Perm (a :: l) := by
  induction l with
  | nil => exact .refl _
  | cons b rest ih =>
    unfold insert
    split
    · exact (ih.cons b).trans (.swap a b rest)
    · exact .refl _

/-- In an ordered list, what is due by a time is what stands first. -/
theorem takeWhile_eq_filter {l : List (Scheduled α)} (h : l.Pairwise NotAfter) (time : Nat) :
    l.takeWhile (fun a => a.due ≤ time) = l.filter fun a => a.due ≤ time := by
  induction l with
  | nil => rfl
  | cons a rest ih =>
    rw [List.pairwise_cons] at h
    by_cases ha : a.due ≤ time
    · simp [ha, ih h.2]
    · have hrest : ∀ b ∈ rest, ¬ b.due ≤ time := by
        intro b hb
        have hab := h.1 b hb
        unfold NotAfter at hab
        omega
      simp only [List.takeWhile_cons, List.filter_cons, ha, decide_false, Bool.false_eq_true,
        if_false]
      symm
      rw [List.filter_eq_nil_iff]
      simpa using hrest

theorem dropWhile_eq_filter {l : List (Scheduled α)} (h : l.Pairwise NotAfter) (time : Nat) :
    l.dropWhile (fun a => a.due ≤ time) = l.filter fun a => time < a.due := by
  induction l with
  | nil => rfl
  | cons a rest ih =>
    rw [List.pairwise_cons] at h
    by_cases ha : a.due ≤ time
    · have hn : ¬ time < a.due := by omega
      simp [ha, hn, ih h.2]
    · have hrest : ∀ b ∈ rest, time < b.due := by
        intro b hb
        have hab := h.1 b hb
        unfold NotAfter at hab
        omega
      have ha' : time < a.due := by omega
      simp only [List.dropWhile_cons, List.filter_cons, ha, ha', decide_false, decide_true,
        Bool.false_eq_true, if_false, if_true]
      rw [List.filter_eq_self.2 (by simpa using hrest)]

end Scheduled

namespace Timers

variable {σ π : Type}

theorem eq_of_pending {t u : Timers σ π} (h : t.pending = u.pending) : t = u := by
  obtain ⟨⟨l, hl⟩⟩ := t
  obtain ⟨⟨m, hm⟩⟩ := u
  simp only [pending] at h
  subst h
  rfl

/-! ## What is pending after an operation -/

theorem pending_fired (t : Timers σ π) (stamp : Nat) :
    (t.fired stamp).pending = t.pending.filter fun e => e.stamp ≠ stamp := rfl

theorem pending_after (t : Timers σ π) (time : Nat) :
    (t.after time).pending = t.pending.filter fun e => time < e.due :=
  Scheduled.dropWhile_eq_filter t.agenda.ordered time

theorem due_eq_filter (t : Timers σ π) (time : Nat) :
    t.due time = t.pending.filter fun e => e.due ≤ time :=
  Scheduled.takeWhile_eq_filter t.agenda.ordered time

theorem due_append_pending_after (t : Timers σ π) (time : Nat) :
    t.due time ++ (t.after time).pending = t.pending :=
  t.agenda.due_append_after time

/-! ## Slots and stamps -/

/-- No two pending timers share a slot or a stamp, and the next stamp is greater than all of theirs.
-/
structure Fresh (t : Timers σ π) (c : Clock) : Prop where
  /-- Slots are not shared. -/
  slots : (t.pending.map fun e => e.value.1).Nodup
  /-- Stamps are not shared. -/
  stamps : (t.pending.map Scheduled.stamp).Nodup
  /-- Stamps are older than the next one. -/
  stamp_lt : ∀ e ∈ t.pending, e.stamp < c.stamp

theorem Fresh.empty (c : Clock) : Fresh ({} : Timers σ π) c where
  slots := .nil
  stamps := .nil
  stamp_lt := by simp [pending, Agenda.empty]

/-- The time plays no part. -/
theorem Fresh.of_stamp_eq {t : Timers σ π} {c c' : Clock} (h : t.Fresh c)
    (hc : c'.stamp = c.stamp) : t.Fresh c' :=
  ⟨h.slots, h.stamps, fun e he => by rw [hc]; exact h.stamp_lt e he⟩

theorem Fresh.sublist {t u : Timers σ π} {c : Clock} (h : t.Fresh c)
    (hu : u.pending.Sublist t.pending) : u.Fresh c where
  slots := h.slots.sublist (hu.map _)
  stamps := h.stamps.sublist (hu.map _)
  stamp_lt e he := h.stamp_lt e (hu.subset he)

theorem Fresh.after {t : Timers σ π} {c : Clock} (h : t.Fresh c) (time : Nat) :
    (t.after time).Fresh c :=
  h.sublist (List.dropWhile_sublist _)

theorem Fresh.fired {t : Timers σ π} {c : Clock} (h : t.Fresh c) (stamp : Nat) :
    (t.fired stamp).Fresh c :=
  h.sublist List.filter_sublist

/-- Removing the first pending timer by its stamp removes nothing else. -/
theorem Fresh.pending_fired_head {t : Timers σ π} {c : Clock} (h : t.Fresh c)
    {e : Scheduled (σ × π)} {rest : List (Scheduled (σ × π))} (he : t.pending = e :: rest) :
    (t.fired e.stamp).pending = rest := by
  have hs := h.stamps
  rw [he, List.map_cons, List.nodup_cons] at hs
  rw [pending_fired, he, List.filter_cons_of_neg (by simp), List.filter_eq_self]
  intro x hx
  have hne : x.stamp ≠ e.stamp := fun hxe => hs.1 (hxe ▸ List.mem_map_of_mem hx)
  simpa using hne

/-! ## Starting and cancelling -/

variable [DecidableEq σ]

theorem pending_cancel (t : Timers σ π) (slot : σ) :
    (t.cancel slot).pending = t.pending.filter fun e => e.value.1 ≠ slot := rfl

theorem perm_pending_start (t : Timers σ π) (c : Clock) (slot : σ) (delay : Nat) (m : π) :
    (t.start c slot delay m).pending.Perm
      (⟨c.now + delay, c.stamp, (slot, m)⟩ :: (t.cancel slot).pending) :=
  Scheduled.perm_insert _ _

theorem mem_pending_start {t : Timers σ π} {c : Clock} {slot : σ} {delay : Nat} {m : π}
    {e : Scheduled (σ × π)} : e ∈ (t.start c slot delay m).pending ↔
      e = ⟨c.now + delay, c.stamp, (slot, m)⟩ ∨ (e ∈ t.pending ∧ e.value.1 ≠ slot) := by
  rw [(perm_pending_start t c slot delay m).mem_iff, List.mem_cons, pending_cancel]
  simp

theorem Fresh.cancel {t : Timers σ π} {c : Clock} (h : t.Fresh c) (slot : σ) :
    (t.cancel slot).Fresh c :=
  h.sublist List.filter_sublist

theorem Fresh.start {t : Timers σ π} {c : Clock} (h : t.Fresh c) (slot : σ) (delay : Nat) (m : π) :
    (t.start c slot delay m).Fresh c.tick := by
  have hc := h.cancel slot
  have hp := perm_pending_start t c slot delay m
  refine ⟨?_, ?_, fun e he => ?_⟩
  · refine (hp.map _).nodup_iff.2 (List.nodup_cons.2 ⟨?_, hc.slots⟩)
    simp [pending_cancel]
  · refine (hp.map _).nodup_iff.2 (List.nodup_cons.2 ⟨fun hm => ?_, hc.stamps⟩)
    obtain ⟨e, he, hs⟩ := List.mem_map.1 hm
    exact absurd hs (Nat.ne_of_lt (hc.stamp_lt e he))
  · rcases mem_pending_start.1 he with rfl | ⟨he, -⟩
    · exact Nat.lt_succ_self _
    · exact Nat.lt_succ_of_lt (h.stamp_lt e he)

/-! ## Nothing overdue -/

/-- Slots and stamps are not shared, and no pending timer should have fired before now. -/
structure Ready (t : Timers σ π) (c : Clock) : Prop extends t.Fresh c where
  /-- No pending timer is overdue. -/
  notPast : ∀ e ∈ t.pending, c.now ≤ e.due

omit [DecidableEq σ] in
theorem Ready.empty (c : Clock) : Ready ({} : Timers σ π) c where
  toFresh := .empty c
  notPast := by simp [pending, Agenda.empty]

theorem Ready.cancel {t : Timers σ π} {c : Clock} (h : t.Ready c) (slot : σ) :
    (t.cancel slot).Ready c where
  toFresh := h.toFresh.cancel slot
  notPast e he := h.notPast e (List.mem_of_mem_filter he)

theorem Ready.start {t : Timers σ π} {c : Clock} (h : t.Ready c) (slot : σ) (delay : Nat) (m : π) :
    (t.start c slot delay m).Ready c.tick where
  toFresh := h.toFresh.start slot delay m
  notPast e he := by
    rcases mem_pending_start.1 he with rfl | ⟨he, -⟩
    · exact Nat.le_add_right _ _
    · exact h.notPast e he

/-! ## Deadlines -/

/-- When the timer in a slot fires, if one is pending there. -/
def deadline? (t : Timers σ π) (slot : σ) : Option Nat :=
  (t.pending.find? fun e => e.value.1 = slot).map Scheduled.due

theorem isActive_eq (t : Timers σ π) (slot : σ) :
    t.isActive slot = (t.deadline? slot).isSome := by
  rw [isActive, deadline?, Option.isSome_map, Bool.eq_iff_iff]
  simp

theorem deadline?_eq_some_iff {t : Timers σ π}
    (h : (t.pending.map fun e => e.value.1).Nodup) {slot : σ} {time : Nat} :
    t.deadline? slot = some time ↔ ∃ e ∈ t.pending, e.value.1 = slot ∧ e.due = time := by
  constructor
  · intro hd
    obtain ⟨e, he, hdue⟩ := Option.map_eq_some_iff.1 hd
    exact ⟨e, List.mem_of_find?_eq_some he, by simpa using List.find?_some he, hdue⟩
  · rintro ⟨e, he, hslot, hdue⟩
    have hfind : (t.pending.find? fun e => e.value.1 = slot).isSome := by
      simp only [List.find?_isSome, decide_eq_true_eq]
      exact ⟨e, he, hslot⟩
    obtain ⟨e', he'⟩ := Option.isSome_iff_exists.1 hfind
    have hee : e' = e := by
      refine List.inj_on_of_nodup_map h (List.mem_of_find?_eq_some he') he ?_
      rw [hslot]
      simpa using List.find?_some he'
    rw [deadline?, he', hee, Option.map_some, hdue]

/-- What only the timer in one slot contributes to, the pending timers give at most once. -/
theorem filterMap_eq_of_slot {β : Type} {l : List (Scheduled (σ × π))}
    (hl : (l.map fun e => e.value.1).Nodup) (slot : σ) (f : Scheduled (σ × π) → Option β)
    (hf : ∀ e ∈ l, e.value.1 ≠ slot → f e = none) :
    l.filterMap f = ((l.find? fun e => e.value.1 = slot).bind f).toList := by
  induction l with
  | nil => rfl
  | cons e rest ih =>
    rw [List.map_cons, List.nodup_cons] at hl
    have ih := ih hl.2 fun x hx => hf x (List.mem_cons_of_mem _ hx)
    by_cases he : e.value.1 = slot
    · have hrest : rest.find? (fun e => e.value.1 = slot) = none := by
        rw [List.find?_eq_none]
        intro x hx hxs
        have hxs : x.value.1 = slot := by simpa using hxs
        exact hl.1 (List.mem_map.2 ⟨x, hx, hxs.trans he.symm⟩)
      rw [hrest] at ih
      rw [List.find?_cons_of_pos (by simpa using he), List.filterMap_cons, ih]
      cases hfe : f e <;> simp [hfe]
    · rw [List.find?_cons_of_neg (by simpa using he), List.filterMap_cons,
        hf e List.mem_cons_self he, ih]

theorem deadline?_eq_none_iff {t : Timers σ π} {slot : σ} :
    t.deadline? slot = none ↔ ∀ e ∈ t.pending, e.value.1 ≠ slot := by
  simp [deadline?]

/-- Nothing is pending if no slot has a deadline. -/
theorem pending_eq_nil_iff {t : Timers σ π} :
    t.pending = [] ↔ ∀ slot, t.deadline? slot = none := by
  constructor
  · intro h slot
    rw [deadline?, h]
    rfl
  · intro h
    rw [List.eq_nil_iff_forall_not_mem]
    exact fun e he => deadline?_eq_none_iff.1 (h e.value.1) e he rfl

theorem deadline?_cancel_self (t : Timers σ π) (slot : σ) :
    (t.cancel slot).deadline? slot = none := by
  rw [deadline?_eq_none_iff, pending_cancel]
  simp

/-- Where no timer is pending in a slot, there is none to cancel. -/
theorem cancel_of_none {t : Timers σ π} {slot : σ} (h : t.deadline? slot = none) :
    t.cancel slot = t := by
  refine eq_of_pending ?_
  rw [pending_cancel, List.filter_eq_self]
  intro e he
  simpa using deadline?_eq_none_iff.1 h e he

theorem deadline?_cancel_of_ne {t : Timers σ π} {slot other : σ} (h : other ≠ slot) :
    (t.cancel slot).deadline? other = t.deadline? other := by
  simp only [deadline?, pending_cancel, List.find?_filter]
  congr 2
  funext e
  by_cases he : e.value.1 = other
  · simp [he, h]
  · simp [he]

theorem Fresh.deadline?_start_self {t : Timers σ π} {c : Clock} (h : t.Fresh c) (slot : σ)
    (delay : Nat) (m : π) : (t.start c slot delay m).deadline? slot = some (c.now + delay) := by
  rw [deadline?_eq_some_iff (h.start slot delay m).slots]
  exact ⟨_, mem_pending_start.2 (.inl rfl), rfl, rfl⟩

theorem Fresh.deadline?_start_of_ne {t : Timers σ π} {c : Clock} (h : t.Fresh c) {slot other : σ}
    (hne : other ≠ slot) (delay : Nat) (m : π) :
    (t.start c slot delay m).deadline? other = t.deadline? other := by
  ext time
  rw [deadline?_eq_some_iff (h.start slot delay m).slots, deadline?_eq_some_iff h.slots]
  constructor
  · rintro ⟨e, he, hs, hd⟩
    rcases mem_pending_start.1 he with rfl | ⟨he, -⟩
    · exact absurd hs.symm hne
    · exact ⟨e, he, hs, hd⟩
  · rintro ⟨e, he, hs, hd⟩
    exact ⟨e, mem_pending_start.2 (.inr ⟨he, by rw [hs]; exact hne⟩), hs, hd⟩

theorem Fresh.deadline?_after {t : Timers σ π} {c : Clock} (h : t.Fresh c) (time : Nat)
    (slot : σ) : (t.after time).deadline? slot = (t.deadline? slot).filter (time < ·) := by
  ext d
  rw [deadline?_eq_some_iff (h.after time).slots, Option.filter_eq_some_iff,
    deadline?_eq_some_iff h.slots, pending_after]
  simp only [List.mem_filter, decide_eq_true_eq]
  constructor
  · rintro ⟨e, ⟨he, hlt⟩, hs, rfl⟩
    exact ⟨⟨e, he, hs, rfl⟩, hlt⟩
  · rintro ⟨⟨e, he, hs, rfl⟩, hlt⟩
    exact ⟨e, ⟨he, hlt⟩, hs, rfl⟩

end Timers

end NavigationBar
