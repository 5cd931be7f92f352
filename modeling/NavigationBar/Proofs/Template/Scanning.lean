import NavigationBar.Proofs.Template.Printed

/-!
# Finding the last conditional

The ends of a conditional are found by scans that count brackets. A scan passes over a balanced
list of tokens (`Balanced`), so in a text `… c ? a : b …` whose parts are balanced the scans find
`c`, `a` and `b`, if the question mark is the last one and the text around the conditional ends the
scans.
-/

namespace NavigationBar.Template

open Token

/-! ## Tokens between given neighbours -/

/-- The first character of a list of tokens that the character `right` follows. -/
def headChar (right : Option Char) : List Token → Option Char
  | [] => right
  | t :: _ => t.text.head?

theorem headChar_cons (right : Option Char) (t : Token) (ts : List Token) :
    headChar right (t :: ts) = t.text.head? := rfl

theorem headChar_append (right : Option Char) (ts us : List Token) :
    headChar right (ts ++ us) = headChar (headChar right us) ts := by
  cases ts <;> rfl

/-- The last character of a list of tokens that follows the character `left`. -/
def lastChar (left : Option Char) : List Token → Option Char
  | [] => left
  | t :: ts => lastChar t.text.getLast? ts

/-- The tokens of a list between the characters `left` and `right`, each between its neighbours. -/
def placeWithin (left right : Option Char) : List Token → List Placed
  | [] => []
  | t :: ts => ⟨left, t, headChar right ts⟩ :: placeWithin t.text.getLast? right ts

theorem place_eq (left : Option Char) (ts : List Token) :
    place left ts = placeWithin left none ts := by
  induction ts generalizing left with
  | nil => rfl
  | cons t ts ih =>
    rw [place, placeWithin, ih]
    cases ts <;> rfl

theorem placeWithin_append (left right : Option Char) (ts us : List Token) :
    placeWithin left right (ts ++ us) =
      placeWithin left (headChar right us) ts ++ placeWithin (lastChar left ts) right us := by
  induction ts generalizing left with
  | nil => rfl
  | cons t ts ih =>
    rw [List.cons_append, placeWithin, placeWithin, ih]
    cases ts <;> rfl

theorem map_token_placeWithin (left right : Option Char) (ts : List Token) :
    (placeWithin left right ts).map Placed.token = ts := by
  induction ts generalizing left with
  | nil => rfl
  | cons t ts ih => rw [placeWithin, List.map_cons, ih]

theorem covered_placeWithin (left right : Option Char) (ts : List Token) :
    covered (placeWithin left right ts) = source ts := by
  rw [covered, map_token_placeWithin]

/-- A property of every token of a list, whatever stands around the list. -/
def Everywhere (P : Placed → Prop) (ts : List Token) : Prop :=
  ∀ left right, ∀ p ∈ placeWithin left right ts, P p

theorem everywhere_append {P : Placed → Prop} {ts us : List Token} (ht : Everywhere P ts)
    (hu : Everywhere P us) : Everywhere P (ts ++ us) := by
  intro left right p hp
  rw [placeWithin_append, List.mem_append] at hp
  exact hp.elim (ht _ _ p) (hu _ _ p)

/-- A property that neighbours do not matter for. -/
theorem everywhere_of_forall {P : Placed → Prop} {ts : List Token}
    (h : ∀ t ∈ ts, ∀ left right, P ⟨left, t, right⟩) : Everywhere P ts := by
  intro left right p hp
  have ht : p.token ∈ ts := by
    rw [← map_token_placeWithin left right ts]
    exact List.mem_map_of_mem hp
  exact h p.token ht p.left p.right

namespace Placed

theorem isOpening_of_isClosing {p : Placed} (h : p.isClosing = true) : p.isOpening = false := by
  simp only [isClosing, isMark, Bool.or_eq_true, beq_iff_eq] at h
  rcases h with (h | h) | h <;> simp [isOpening, isMark, h]

theorem kind_of_isQuestion {p : Placed} (h : p.isQuestion = true) : p.token.kind = .mark '?' := by
  simp only [isQuestion, isMark, Bool.and_eq_true, beq_iff_eq] at h
  exact h.1.1

theorem kind_of_isColon {p : Placed} (h : p.isColon = true) : p.token.kind = .mark ':' := by
  simp only [isColon, isMark, Bool.and_eq_true, beq_iff_eq] at h
  exact h.1.1

/-- A token that is neither a mark nor a word that conditions end at. -/
structure IsPlain (p : Placed) : Prop where
  /-- It opens nothing. -/
  opening : p.isOpening = false
  /-- It closes nothing. -/
  closing : p.isClosing = false
  /-- No condition begins after it. -/
  condition : p.endsCondition = false

theorem endsAlternative_of_endsCondition {p : Placed} (h : p.endsCondition = false) :
    p.endsAlternative = false := by
  simp only [endsCondition, Bool.or_eq_false_iff] at h
  obtain ⟨⟨⟨⟨⟨h₁, h₂⟩, -⟩, h₃⟩, -⟩, -⟩ := h
  simp [endsAlternative, h₁, h₂, h₃]

theorem isPlain_of_not_significant {p : Placed} (h : p.isSignificant = false) : p.IsPlain := by
  have hk : p.token.kind = .trivia := by simpa [isSignificant] using h
  refine ⟨?_, ?_, ?_⟩
  · simp [isOpening, isMark, hk]
  · simp [isClosing, isMark, hk]
  · simp [endsCondition, isMark, isQuestion, isColon, isAssignment, hk]

end Placed

/-! ## Balanced lists -/

/-- A list of tokens whose brackets match. If it is `tight`, no condition begins inside of it but
within brackets. -/
inductive Balanced : Bool → List Placed → Prop where
  /-- Nothing. -/
  | nil (tight : Bool) : Balanced tight []
  /-- A token that is no bracket. -/
  | single {tight : Bool} {p : Placed} (ho : p.isOpening = false) (hc : p.isClosing = false)
    (ht : tight = true → p.endsCondition = false) : Balanced tight [p]
  /-- One list after another. -/
  | append {tight : Bool} {ps qs : List Placed} (hp : Balanced tight ps) (hq : Balanced tight qs) :
    Balanced tight (ps ++ qs)
  /-- A list in brackets. -/
  | group {tight : Bool} {o c : Placed} {ps : List Placed} (ho : o.isOpening = true)
    (hp : Balanced false ps) (hc : c.isClosing = true) : Balanced tight (o :: ps ++ [c])

variable {tight : Bool} {ps qs : List Placed}

theorem balanced_of_forall_isPlain (h : ∀ p ∈ ps, p.IsPlain) : Balanced tight ps := by
  induction ps with
  | nil => exact .nil tight
  | cons p ps ih =>
    obtain ⟨hp, hps⟩ := List.forall_mem_cons.1 h
    rw [← List.singleton_append]
    exact .append (.single hp.opening hp.closing fun _ => hp.condition) (ih hps)

theorem balanced_of_not_significant (h : ∀ p ∈ ps, p.isSignificant = false) : Balanced tight ps :=
  balanced_of_forall_isPlain fun p hp => Placed.isPlain_of_not_significant (h p hp)

/-! ## One step of each scan -/

theorem isClosing_of_isOpening {p : Placed} (h : p.isOpening = true) : p.isClosing = false := by
  by_contra hne
  rw [Placed.isOpening_of_isClosing (by simpa using hne)] at h
  exact absurd h nofun

theorem splitCondition_closing {p : Placed} (hc : p.isClosing = true) (depth : Nat)
    (ps : List Placed) : splitCondition depth (p :: ps) =
      (p :: (splitCondition (depth + 1) ps).1, (splitCondition (depth + 1) ps).2) := by
  rw [splitCondition.eq_def]
  simp only [hc, if_true]

theorem splitCondition_opening {p : Placed} (ho : p.isOpening = true) (depth : Nat)
    (ps : List Placed) : splitCondition (depth + 1) (p :: ps) =
      (p :: (splitCondition depth ps).1, (splitCondition depth ps).2) := by
  rw [splitCondition.eq_def]
  simp only [ho, isClosing_of_isOpening ho, Bool.false_eq_true, if_false, if_true]

theorem splitCondition_of_not_end {p : Placed} (ho : p.isOpening = false)
    (hc : p.isClosing = false) {depth : Nat} (he : depth = 0 → p.endsCondition = false)
    (ps : List Placed) : splitCondition depth (p :: ps) =
      (p :: (splitCondition depth ps).1, (splitCondition depth ps).2) := by
  have hend : ¬ (depth = 0 ∧ p.endsCondition = true) := by
    rintro ⟨hd, h⟩
    simp [he hd] at h
  rw [splitCondition.eq_def]
  simp only [ho, hc, hend, Bool.false_eq_true, if_false]

theorem splitCondition_of_end {p : Placed} (hc : p.isClosing = false)
    (he : (p.isOpening || p.endsCondition) = true) (ps : List Placed) :
    splitCondition 0 (p :: ps) = ([], p :: ps) := by
  rw [splitCondition.eq_def]
  cases ho : p.isOpening with
  | true => simp only [hc, ho, Bool.false_eq_true, if_false, if_true]
  | false =>
    have hend : p.endsCondition = true := by simpa [ho] using he
    simp only [hc, ho, hend, Bool.false_eq_true, if_false, and_self, if_true]

theorem splitColon_opening {p : Placed} (ho : p.isOpening = true) (depth : Nat)
    (ps : List Placed) : splitColon depth (p :: ps) =
      (splitColon (depth + 1) ps).map fun (inner, rest) => (p :: inner, rest) := by
  rw [splitColon.eq_def]
  simp only [ho, if_true]

theorem splitColon_closing {p : Placed} (hc : p.isClosing = true) (depth : Nat)
    (ps : List Placed) : splitColon (depth + 1) (p :: ps) =
      (splitColon depth ps).map fun (inner, rest) => (p :: inner, rest) := by
  rw [splitColon.eq_def]
  simp only [Placed.isOpening_of_isClosing hc, hc, Bool.false_eq_true, if_false, if_true]

theorem splitColon_of_not_end {p : Placed} (ho : p.isOpening = false) (hc : p.isClosing = false)
    {depth : Nat} (he : depth = 0 → p.endsCondition = false) (ps : List Placed) :
    splitColon depth (p :: ps) =
      (splitColon depth ps).map fun (inner, rest) => (p :: inner, rest) := by
  have hsemi : ¬ (depth = 0 ∧ p.isMark ';' = true) := by
    rintro ⟨hd, h⟩
    simp [Placed.endsCondition, h] at he
    exact he hd
  have hcolon : ¬ (depth = 0 ∧ p.isColon = true) := by
    rintro ⟨hd, h⟩
    simp [Placed.endsCondition, h] at he
    exact he hd
  rw [splitColon.eq_def]
  simp only [ho, hc, hsemi, hcolon, Bool.false_eq_true, if_false]

theorem splitColon_colon {p : Placed} (h : p.isColon = true) (ps : List Placed) :
    splitColon 0 (p :: ps) = some ([], ps) := by
  have hk := Placed.kind_of_isColon h
  have ho : p.isOpening = false := by simp [Placed.isOpening, Placed.isMark, hk]
  have hc : p.isClosing = false := by simp [Placed.isClosing, Placed.isMark, hk]
  have hs : p.isMark ';' = false := by simp [Placed.isMark, hk]
  rw [splitColon.eq_def]
  simp only [ho, hc, hs, h, Bool.false_eq_true, and_false, if_false, and_self, if_true]

theorem splitAlternative_opening {p : Placed} (ho : p.isOpening = true) (depth : Nat)
    (ps : List Placed) : splitAlternative depth (p :: ps) =
      (p :: (splitAlternative (depth + 1) ps).1, (splitAlternative (depth + 1) ps).2) := by
  rw [splitAlternative.eq_def]
  simp only [ho, if_true]

theorem splitAlternative_closing {p : Placed} (hc : p.isClosing = true) (depth : Nat)
    (ps : List Placed) : splitAlternative (depth + 1) (p :: ps) =
      (p :: (splitAlternative depth ps).1, (splitAlternative depth ps).2) := by
  rw [splitAlternative.eq_def]
  simp only [Placed.isOpening_of_isClosing hc, hc, Bool.false_eq_true, if_false, if_true]

theorem splitAlternative_of_not_end {p : Placed} (ho : p.isOpening = false)
    (hc : p.isClosing = false) {depth : Nat} (he : depth = 0 → p.endsCondition = false)
    (ps : List Placed) : splitAlternative depth (p :: ps) =
      (p :: (splitAlternative depth ps).1, (splitAlternative depth ps).2) := by
  have hend : ¬ (depth = 0 ∧ p.endsAlternative = true) := by
    rintro ⟨hd, h⟩
    simp [Placed.endsAlternative_of_endsCondition (he hd)] at h
  rw [splitAlternative.eq_def]
  simp only [ho, hc, hend, Bool.false_eq_true, if_false]

theorem splitAlternative_of_end {p : Placed} (ho : p.isOpening = false)
    (he : (p.isClosing || p.endsAlternative) = true) (ps : List Placed) :
    splitAlternative 0 (p :: ps) = ([], p :: ps) := by
  rw [splitAlternative.eq_def]
  cases hc : p.isClosing with
  | true => simp only [hc, ho, Bool.false_eq_true, if_false, if_true]
  | false =>
    have hend : p.endsAlternative = true := by simpa [hc] using he
    simp only [hc, ho, hend, Bool.false_eq_true, if_false, and_self, if_true]

/-! ## Scans over balanced lists -/

theorem endsCondition_of_tight {p : Placed} {depth : Nat} (hd : tight = false → 0 < depth)
    (ht : tight = true → p.endsCondition = false) : depth = 0 → p.endsCondition = false := by
  rintro rfl
  cases tight with
  | false => exact absurd (hd rfl) (Nat.lt_irrefl 0)
  | true => exact ht rfl

/-- The scan for the begin of a condition passes over a balanced list. -/
theorem Balanced.splitCondition_append (h : Balanced tight ps) (depth : Nat)
    (hd : tight = false → 0 < depth) (rest : List Placed) :
    splitCondition depth (ps.reverse ++ rest) =
      (ps.reverse ++ (splitCondition depth rest).1, (splitCondition depth rest).2) := by
  induction h generalizing depth rest with
  | nil => rfl
  | single ho hc ht =>
    exact splitCondition_of_not_end ho hc (endsCondition_of_tight hd ht) rest
  | append hp hq ihp ihq =>
    rw [List.reverse_append, List.append_assoc, ihq depth hd, ihp depth hd]
    simp only [List.append_assoc]
  | group ho hp hc ih =>
    rw [List.reverse_append, List.reverse_singleton, List.reverse_cons, List.singleton_append,
      List.cons_append, List.append_assoc, List.singleton_append, splitCondition_closing hc,
      ih (depth + 1) fun _ => Nat.succ_pos depth, splitCondition_opening ho]
    simp only [List.cons_append, List.append_assoc, List.nil_append]

/-- The scan for the colon of a conditional passes over a balanced list. -/
theorem Balanced.splitColon_append (h : Balanced tight ps) (depth : Nat)
    (hd : tight = false → 0 < depth) (rest : List Placed) :
    splitColon depth (ps ++ rest) =
      (splitColon depth rest).map fun (inner, left) => (ps ++ inner, left) := by
  induction h generalizing depth rest with
  | nil => simp
  | single ho hc ht => exact splitColon_of_not_end ho hc (endsCondition_of_tight hd ht) rest
  | append hp hq ihp ihq =>
    rw [List.append_assoc, ihp depth hd, ihq depth hd, Option.map_map]
    simp only [Function.comp_def, List.append_assoc]
  | group ho hp hc ih =>
    rw [List.cons_append, List.cons_append, List.append_assoc, List.singleton_append,
      splitColon_opening ho, ih (depth + 1) fun _ => Nat.succ_pos depth, splitColon_closing hc,
      Option.map_map, Option.map_map]
    simp only [Function.comp_def, List.cons_append, List.append_assoc, List.nil_append]

/-- The scan for the end of a conditional passes over a balanced list. -/
theorem Balanced.splitAlternative_append (h : Balanced tight ps) (depth : Nat)
    (hd : tight = false → 0 < depth) (rest : List Placed) :
    splitAlternative depth (ps ++ rest) =
      (ps ++ (splitAlternative depth rest).1, (splitAlternative depth rest).2) := by
  induction h generalizing depth rest with
  | nil => rfl
  | single ho hc ht => exact splitAlternative_of_not_end ho hc (endsCondition_of_tight hd ht) rest
  | append hp hq ihp ihq =>
    rw [List.append_assoc, ihp depth hd, ihq depth hd]
    simp only [List.append_assoc]
  | group ho hp hc ih =>
    rw [List.cons_append, List.cons_append, List.append_assoc, List.singleton_append,
      splitAlternative_opening ho, ih (depth + 1) fun _ => Nat.succ_pos depth,
      splitAlternative_closing hc]
    simp only [List.cons_append, List.append_assoc, List.nil_append]

end NavigationBar.Template
