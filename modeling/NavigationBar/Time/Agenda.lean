/-!
# Agendas

Things that are to happen, in the order in which they will. Time is counted in milliseconds. What is
put on an agenda takes a stamp from the clock, and of two things that are due at the same time the
one with the earlier stamp comes first, that is, the one that was put on its agenda first.
-/

namespace NavigationBar

/-- A clock, which also counts what was put on an agenda. -/
structure Clock where
  /-- The time. -/
  now : Nat := 0
  /-- The next stamp. -/
  stamp : Nat := 0
deriving DecidableEq, Repr, Inhabited

namespace Clock

/-- The clock after a stamp was taken. -/
def tick (c : Clock) : Clock :=
  { c with stamp := c.stamp + 1 }

/-- The clock at a later time. It does not go back. -/
def advance (c : Clock) (time : Nat) : Clock :=
  { c with now := max c.now time }

end Clock

/-- Something that is to happen at a time. -/
structure Scheduled (α : Type) where
  /-- The time. -/
  due : Nat
  /-- The stamp that it was given. -/
  stamp : Nat
  /-- What is to happen. -/
  value : α
deriving DecidableEq, Repr, Inhabited

namespace Scheduled

variable {α β : Type}

/-- Whether a thing happens before another, or could. -/
def NotAfter (a : Scheduled α) (b : Scheduled β) : Prop :=
  a.due < b.due ∨ a.due = b.due ∧ a.stamp ≤ b.stamp

instance (a : Scheduled α) (b : Scheduled β) : Decidable (a.NotAfter b) :=
  inferInstanceAs (Decidable (_ ∨ _))

theorem NotAfter.trans {a b c : Scheduled α} (h : a.NotAfter b) (k : b.NotAfter c) :
    a.NotAfter c := by
  unfold NotAfter at *
  omega

theorem notAfter_of_not {a b : Scheduled α} (h : ¬ a.NotAfter b) : b.NotAfter a := by
  unfold NotAfter at *
  omega

/-- Something else at the same time. -/
def map (f : α → β) (a : Scheduled α) : Scheduled β where
  due := a.due
  stamp := a.stamp
  value := f a.value

/-- A list with one more thing, before the first that happens after it. -/
def insert (a : Scheduled α) : List (Scheduled α) → List (Scheduled α)
  | [] => [a]
  | b :: rest => if b.NotAfter a then b :: insert a rest else a :: b :: rest

theorem mem_insert {a x : Scheduled α} {l : List (Scheduled α)} :
    x ∈ insert a l ↔ x = a ∨ x ∈ l := by
  induction l with
  | nil => simp [insert]
  | cons b rest ih =>
    unfold insert
    split
    · simp only [List.mem_cons, ih]
      exact or_left_comm
    · simp

theorem pairwise_insert {a : Scheduled α} {l : List (Scheduled α)} (h : l.Pairwise NotAfter) :
    (insert a l).Pairwise NotAfter := by
  induction l with
  | nil => simp [insert]
  | cons b rest ih =>
    rw [List.pairwise_cons] at h
    unfold insert
    split
    · rename_i hb
      refine List.pairwise_cons.2 ⟨fun x hx => ?_, ih h.2⟩
      rcases mem_insert.1 hx with rfl | hx
      · exact hb
      · exact h.1 x hx
    · rename_i hb
      refine List.pairwise_cons.2 ⟨fun x hx => ?_, List.pairwise_cons.2 h⟩
      rcases List.mem_cons.1 hx with rfl | hx
      · exact notAfter_of_not hb
      · exact (notAfter_of_not hb).trans (h.1 x hx)

end Scheduled

/-- What is to happen, the first first. -/
structure Agenda (α : Type) where
  /-- The things. -/
  entries : List (Scheduled α)
  /-- They stand in the order in which they happen. -/
  ordered : entries.Pairwise Scheduled.NotAfter

namespace Agenda

variable {α : Type}

/-- An agenda without anything on it. -/
def empty : Agenda α where
  entries := []
  ordered := .nil

instance : Inhabited (Agenda α) := ⟨empty⟩

/-- An agenda with one more thing. -/
def add (g : Agenda α) (a : Scheduled α) : Agenda α where
  entries := Scheduled.insert a g.entries
  ordered := Scheduled.pairwise_insert g.ordered

/-- An agenda of things that stand in any order. -/
def ofList (l : List (Scheduled α)) : Agenda α :=
  l.foldl add empty

/-- The things on an agenda that satisfy a condition. -/
def filter (p : Scheduled α → Bool) (g : Agenda α) : Agenda α where
  entries := g.entries.filter p
  ordered := g.ordered.filter p

/-- The agenda without its first things, as long as they satisfy a condition. -/
def dropWhile (p : Scheduled α → Bool) (g : Agenda α) : Agenda α where
  entries := g.entries.dropWhile p
  ordered := g.ordered.sublist (List.dropWhile_sublist p)

/-- The first things on an agenda, as long as they satisfy a condition. -/
def takeWhile (p : Scheduled α → Bool) (g : Agenda α) : List (Scheduled α) :=
  g.entries.takeWhile p

/-- What is due by a time, in the order in which it happens. -/
def due (g : Agenda α) (time : Nat) : List (Scheduled α) :=
  g.takeWhile fun a => a.due ≤ time

/-- The agenda without what is due by a time. -/
def after (g : Agenda α) (time : Nat) : Agenda α :=
  g.dropWhile fun a => a.due ≤ time

theorem mem_add {g : Agenda α} {a x : Scheduled α} :
    x ∈ (g.add a).entries ↔ x = a ∨ x ∈ g.entries :=
  Scheduled.mem_insert

theorem mem_foldl_add {g : Agenda α} {l : List (Scheduled α)} {x : Scheduled α} :
    x ∈ (l.foldl add g).entries ↔ x ∈ g.entries ∨ x ∈ l := by
  induction l generalizing g with
  | nil => simp
  | cons a l ih =>
    rw [List.foldl_cons, ih, mem_add, List.mem_cons, or_assoc]
    exact or_left_comm

theorem mem_ofList {l : List (Scheduled α)} {x : Scheduled α} :
    x ∈ (ofList l).entries ↔ x ∈ l := by
  simp [ofList, mem_foldl_add, empty]

theorem due_append_after (g : Agenda α) (time : Nat) :
    g.due time ++ (g.after time).entries = g.entries :=
  List.takeWhile_append_dropWhile

end Agenda

end NavigationBar
