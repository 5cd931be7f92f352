import NavigationBar.Json.Parser
import NavigationBar.Json.Printer

/-!
# Numbers before other text

What follows a number does not change how it is read, as long as it cannot belong to the number.
Every reader of a part of a number leaves such a text alone.
-/

namespace NavigationBar.Json

/-- No number goes on with this text. -/
def EndsNumber (rest : List Char) : Prop :=
  ∀ c ∈ rest.head?, c.isDigit = false ∧ c ≠ '.' ∧ c ≠ 'e' ∧ c ≠ 'E'

theorem endsNumber_nil : EndsNumber [] := by
  intro c hc
  cases hc

theorem endsNumber_cons {c : Char} {rest : List Char} :
    EndsNumber (c :: rest) ↔ c.isDigit = false ∧ c ≠ '.' ∧ c ≠ 'e' ∧ c ≠ 'E' := by
  constructor
  · intro h
    exact h c rfl
  · intro h d hd
    cases hd
    exact h

section

variable {rest : List Char} (hrest : EndsNumber rest)

include hrest

theorem dropWhile_isDigit_append (cs : List Char) :
    (cs ++ rest).dropWhile Char.isDigit = cs.dropWhile Char.isDigit ++ rest := by
  induction cs with
  | nil =>
    cases rest with
    | nil => rfl
    | cons c rest => rw [List.nil_append, List.dropWhile_cons, (endsNumber_cons.mp hrest).1]; rfl
  | cons c cs ih =>
    rw [List.cons_append, List.dropWhile_cons, List.dropWhile_cons, ih]
    split <;> rfl

theorem takeWhile_isDigit_append (cs : List Char) :
    (cs ++ rest).takeWhile Char.isDigit = cs.takeWhile Char.isDigit := by
  induction cs with
  | nil =>
    cases rest with
    | nil => rfl
    | cons c rest => rw [List.nil_append, List.takeWhile_cons, (endsNumber_cons.mp hrest).1]; rfl
  | cons c cs ih => rw [List.cons_append, List.takeWhile_cons, List.takeWhile_cons, ih]

theorem readInteger_append (n : Nat) (cs : List Char) :
    readInteger n (cs ++ rest)
      = ((readInteger n cs).1, (readInteger n cs).2.1 ++ rest, (readInteger n cs).2.2) := by
  induction cs generalizing n with
  | nil =>
    cases rest with
    | nil => rfl
    | cons c rest => simp [readInteger, (endsNumber_cons.mp hrest).1]
  | cons c cs ih =>
    rw [List.cons_append, readInteger, readInteger]
    split
    · split
      · rfl
      · exact ih _
    · rfl

theorem readFraction_append (s places : Nat) (cs : List Char) :
    readFraction s places (cs ++ rest)
      = ((readFraction s places cs).1, (readFraction s places cs).2.1,
        (readFraction s places cs).2.2.1 ++ rest, (readFraction s places cs).2.2.2) := by
  induction cs generalizing s places with
  | nil =>
    cases rest with
    | nil => rfl
    | cons c rest => simp [readFraction, (endsNumber_cons.mp hrest).1]
  | cons c cs ih =>
    rw [List.cons_append, readFraction, readFraction]
    split
    · split
      · rfl
      · exact ih _ _
    · rfl

theorem readExponentDigits_append (n : Nat) (cs : List Char) :
    readExponentDigits n (cs ++ rest)
      = ((readExponentDigits n cs).1, (readExponentDigits n cs).2 ++ rest) := by
  induction cs generalizing n with
  | nil =>
    cases rest with
    | nil => rfl
    | cons c rest => simp [readExponentDigits, (endsNumber_cons.mp hrest).1]
  | cons c cs ih =>
    rw [List.cons_append, readExponentDigits, readExponentDigits]
    split
    · split
      · rfl
      · exact ih _
    · rfl

end

theorem scaled_append {positive : Bool} {s : Nat} {exponent : Int} {cs r : List Char} {v : Json}
    (h : scaled positive s exponent cs = .ok (v, r)) (rest : List Char) :
    scaled positive s exponent (cs ++ rest) = .ok (v, r ++ rest) := by
  unfold scaled at h ⊢
  split
  · rename_i x hx
    rw [hx] at h
    cases h
    rfl
  · rename_i hx
    rw [hx] at h
    cases h

theorem readScale_of_not_mark {positive : Bool} {s : Nat} {exponent : Int} {cs : List Char}
    (h : ∀ c ∈ cs.head?, c ≠ 'e' ∧ c ≠ 'E') :
    readScale positive s exponent cs = scaled positive s exponent cs := by
  unfold readScale
  split
  · exact absurd rfl (h 'e' rfl).1
  · exact absurd rfl (h 'E' rfl).2
  · rfl

/-- A number without a fraction and an exponent. -/
def whole (positive : Bool) (n : Nat) (rest : List Char) : Read Json :=
  if positive then .ok (int n, rest)
  else if n = 0 ∨ twoTo 63 < n then .ok (float (-(UInt64.ofNat n).toFloat), rest)
  else .ok (int (-(n : Int)), rest)

theorem readNumberEnd_of_not_mark {positive : Bool} {n : Nat} {cs : List Char}
    (h : ∀ c ∈ cs.head?, c ≠ '.' ∧ c ≠ 'e' ∧ c ≠ 'E') :
    readNumberEnd positive n cs = whole positive n cs := by
  unfold readNumberEnd
  split
  · exact absurd rfl (h '.' rfl).1
  · exact absurd rfl (h 'e' rfl).2.1
  · exact absurd rfl (h 'E' rfl).2.2
  · rfl

theorem whole_append {positive : Bool} {n : Nat} {cs r : List Char} {v : Json}
    (h : whole positive n cs = .ok (v, r)) (rest : List Char) :
    whole positive n (cs ++ rest) = .ok (v, r ++ rest) := by
  unfold whole at h ⊢
  split
  · rename_i hpositive
    rw [if_pos hpositive] at h
    cases h
    rfl
  · rename_i hpositive
    rw [if_neg hpositive] at h
    split
    · rename_i hlarge
      rw [if_pos hlarge] at h
      cases h
      rfl
    · rename_i hlarge
      rw [if_neg hlarge] at h
      cases h
      rfl

/-- Reads what follows the digits of an integer part of which some are left out. -/
def readLongEnd (positive : Bool) (n skipped : Nat) (cs : List Char) : Read Json :=
  match cs with
  | '.' :: r => readPoint positive n skipped r
  | r => readScale positive n skipped r

theorem readNumber_digit {positive : Bool} {c : Char} {cs : List Char} (hzero : c ≠ '0')
    (hc : c.isDigit = true) :
    readNumber positive (c :: cs) =
      if (readInteger 0 (c :: cs)).2.2 then
        readNumberEnd positive (readInteger 0 (c :: cs)).1 (readInteger 0 (c :: cs)).2.1
      else
        readLongEnd positive (readInteger 0 (c :: cs)).1
          ((readInteger 0 (c :: cs)).2.1.takeWhile Char.isDigit).length
          ((readInteger 0 (c :: cs)).2.1.dropWhile Char.isDigit) := by
  simp [readNumber, hc]
  rfl

/-- Reads the digits of an exponent whose sign has been read, and finishes the number. -/
def readSignedExponent (positive : Bool) (significand : Nat) (start : Int) (up : Bool) :
    List Char → Read Json
  | [] => refuse .eofInValue []
  | c :: r =>
    if c.isDigit then
      match readExponentDigits (Text.decimalDigit c) r with
      | (some n, rest) =>
        let e : Int := if up then min (start + n) (twoTo 31 - 1) else max (start - n) (-(twoTo 31))
        scaled positive significand e rest
      | (none, rest) =>
        if significand ≠ 0 ∧ up then refuse .numberOutOfRange rest
        else .ok (float (if positive then 0.0 else -0.0), rest.dropWhile Char.isDigit)
    else if c.utf8Size = 1 then refuse .invalidNumber r
    else refuseNext .invalidNumber (c :: r)

theorem readExponent_eq (positive : Bool) (s : Nat) (start : Int) (cs : List Char) :
    readExponent positive s start cs = match cs with
      | '+' :: r => readSignedExponent positive s start true r
      | '-' :: r => readSignedExponent positive s start false r
      | r => readSignedExponent positive s start true r := by
  cases cs with
  | nil => rfl
  | cons c cs =>
    by_cases hplus : c = '+'
    · subst hplus
      cases cs <;> rfl
    · by_cases hminus : c = '-'
      · subst hminus
        cases cs <;> rfl
      · rcases hread : readExponentDigits (Text.decimalDigit c) cs with ⟨_ | n, rest⟩
        · simp only [readExponent, readSignedExponent, List.cons.injEq, hplus, hminus, false_and,
            imp_self, implies_true, hread]
        · simp only [readExponent, readSignedExponent, List.cons.injEq, hplus, hminus, false_and,
            imp_self, implies_true, hread]

section

variable {rest : List Char} (hrest : EndsNumber rest) {positive : Bool} {cs r : List Char}
  {v : Json}

include hrest

theorem readSignedExponent_append {s : Nat} {start : Int} {up : Bool}
    (h : readSignedExponent positive s start up cs = .ok (v, r)) :
    readSignedExponent positive s start up (cs ++ rest) = .ok (v, r ++ rest) := by
  cases cs with
  | nil => cases h
  | cons c cs =>
    rw [List.cons_append]
    rw [readSignedExponent] at h ⊢
    split
    · rename_i hc
      rw [if_pos hc] at h
      rw [readExponentDigits_append hrest]
      generalize readExponentDigits (Text.decimalDigit c) cs = p at h ⊢
      obtain ⟨n?, t⟩ := p
      cases n? with
      | some n => exact scaled_append h rest
      | none =>
        simp only at h ⊢
        split
        · rename_i hlarge
          rw [if_pos hlarge] at h
          cases h
        · rename_i hlarge
          rw [if_neg hlarge] at h
          cases h
          rw [dropWhile_isDigit_append hrest]
    · rename_i hc
      rw [if_neg hc] at h
      split at h <;> cases h

theorem readExponent_append {s : Nat} {start : Int}
    (h : readExponent positive s start cs = .ok (v, r)) :
    readExponent positive s start (cs ++ rest) = .ok (v, r ++ rest) := by
  rw [readExponent_eq] at h ⊢
  cases cs with
  | nil => cases h
  | cons c cs =>
    rw [List.cons_append]
    split at h
    · rename_i t heq
      cases heq
      exact readSignedExponent_append hrest h
    · rename_i t heq
      cases heq
      exact readSignedExponent_append hrest h
    · rename_i t hplus hminus
      split
      · rename_i t' heq
        cases heq
        exact absurd rfl (hplus cs)
      · rename_i t' heq
        cases heq
        exact absurd rfl (hminus cs)
      · exact readSignedExponent_append hrest h

theorem readScale_append {s : Nat} {exponent : Int}
    (h : readScale positive s exponent cs = .ok (v, r)) :
    readScale positive s exponent (cs ++ rest) = .ok (v, r ++ rest) := by
  cases cs with
  | nil =>
    rw [List.nil_append, readScale_of_not_mark fun c hc => (hrest c hc).2.2]
    exact scaled_append h rest
  | cons c cs =>
    by_cases he : c = 'e'
    · subst he
      exact readExponent_append hrest h
    · by_cases hE : c = 'E'
      · subst hE
        exact readExponent_append hrest h
      · have hmark : ∀ t, ∀ d ∈ (c :: t).head?, d ≠ 'e' ∧ d ≠ 'E' := by
          rintro t d hd
          cases hd
          exact ⟨he, hE⟩
        rw [readScale_of_not_mark (hmark cs)] at h
        rw [List.cons_append, readScale_of_not_mark (hmark (cs ++ rest))]
        exact scaled_append h rest

theorem readPoint_append {n : Nat} {before : Int}
    (h : readPoint positive n before cs = .ok (v, r)) :
    readPoint positive n before (cs ++ rest) = .ok (v, r ++ rest) := by
  unfold readPoint at h ⊢
  rw [readFraction_append hrest]
  generalize readFraction n 0 cs = p at h ⊢
  obtain ⟨s, places, t, fits⟩ := p
  simp only at h ⊢
  split
  · rename_i hfits
    rw [if_pos hfits] at h
    split
    · rename_i hplaces
      rw [if_pos hplaces] at h
      split at h <;> cases h
    · rename_i hplaces
      rw [if_neg hplaces] at h
      exact readScale_append hrest h
  · rename_i hfits
    rw [if_neg hfits] at h
    rw [dropWhile_isDigit_append hrest]
    exact readScale_append hrest h

theorem readNumberEnd_append {n : Nat} (h : readNumberEnd positive n cs = .ok (v, r)) :
    readNumberEnd positive n (cs ++ rest) = .ok (v, r ++ rest) := by
  cases cs with
  | nil =>
    rw [List.nil_append, readNumberEnd_of_not_mark fun c hc => (hrest c hc).2]
    rw [readNumberEnd_of_not_mark (by simp)] at h
    exact whole_append h rest
  | cons c cs =>
    by_cases hpoint : c = '.'
    · subst hpoint
      exact readPoint_append hrest h
    · by_cases he : c = 'e'
      · subst he
        exact readExponent_append hrest h
      · by_cases hE : c = 'E'
        · subst hE
          exact readExponent_append hrest h
        · have hmark : ∀ t, ∀ d ∈ (c :: t).head?, d ≠ '.' ∧ d ≠ 'e' ∧ d ≠ 'E' := by
            rintro t d hd
            cases hd
            exact ⟨hpoint, he, hE⟩
          rw [readNumberEnd_of_not_mark (hmark cs)] at h
          rw [List.cons_append, readNumberEnd_of_not_mark (hmark (cs ++ rest))]
          exact whole_append h rest

theorem readLongEnd_append {n skipped : Nat} (h : readLongEnd positive n skipped cs = .ok (v, r)) :
    readLongEnd positive n skipped (cs ++ rest) = .ok (v, r ++ rest) := by
  cases cs with
  | nil =>
    have hend : readLongEnd positive n skipped rest = readScale positive n skipped rest := by
      cases rest with
      | nil => rfl
      | cons c rest => simp [readLongEnd, (endsNumber_cons.mp hrest).2.1]
    rw [List.nil_append, hend]
    change readScale positive n skipped [] = .ok (v, r) at h
    exact readScale_append hrest h
  | cons c cs =>
    by_cases hpoint : c = '.'
    · subst hpoint
      exact readPoint_append hrest h
    · have hend : ∀ t, readLongEnd positive n skipped (c :: t)
          = readScale positive n skipped (c :: t) := fun t => by simp [readLongEnd, hpoint]
      rw [hend cs] at h
      rw [List.cons_append, hend (cs ++ rest)]
      exact readScale_append hrest h

/-- What follows a number does not change how it is read. -/
theorem readNumber_append (h : readNumber positive cs = .ok (v, r)) :
    readNumber positive (cs ++ rest) = .ok (v, r ++ rest) := by
  cases cs with
  | nil => cases h
  | cons c cs =>
    by_cases hzero : c = '0'
    · subst hzero
      cases cs with
      | nil =>
        have hend : readNumber positive ('0' :: rest) = readNumberEnd positive 0 rest := by
          cases rest with
          | nil => rfl
          | cons d rest => simp [readNumber, (endsNumber_cons.mp hrest).1]
        rw [List.cons_append, List.nil_append, hend]
        change readNumberEnd positive 0 [] = .ok (v, r) at h
        exact readNumberEnd_append hrest h
      | cons d cs =>
        simp only [readNumber, List.cons_append] at h ⊢
        split
        · rename_i hd
          rw [if_pos hd] at h
          cases h
        · rename_i hd
          rw [if_neg hd] at h
          exact readNumberEnd_append hrest h
    · by_cases hc : c.isDigit = true
      · rw [readNumber_digit hzero hc] at h
        rw [List.cons_append, readNumber_digit hzero hc, ← List.cons_append,
          readInteger_append hrest]
        generalize readInteger 0 (c :: cs) = p at h ⊢
        obtain ⟨n, t, fits⟩ := p
        simp only at h ⊢
        split
        · rename_i hfits
          rw [if_pos hfits] at h
          exact readNumberEnd_append hrest h
        · rename_i hfits
          rw [if_neg hfits] at h
          rw [takeWhile_isDigit_append hrest, dropWhile_isDigit_append hrest]
          exact readLongEnd_append hrest h
      · simp [readNumber, hc] at h
        split at h <;> cases h

end

/-! ## Decimal digits -/

theorem le_ofDigitChars (n : Nat) (ds : List Char) : n ≤ Nat.ofDigitChars 10 ds n := by
  rw [Nat.ofDigitChars_eq_ofDigitChars_zero]
  have hpos : 0 < 10 ^ ds.length := Nat.pow_pos (by decide)
  have hmul : n ≤ 10 ^ ds.length * n := Nat.le_mul_of_pos_left n hpos
  omega

theorem readInteger_digits {ds : List Char} (hds : ∀ c ∈ ds, c.isDigit = true) {n : Nat}
    (hle : Nat.ofDigitChars 10 ds n ≤ maxWord) :
    readInteger n ds = (Nat.ofDigitChars 10 ds n, [], true) := by
  induction ds generalizing n with
  | nil => rfl
  | cons c ds ih =>
    have hvalue : Nat.ofDigitChars 10 (c :: ds) n
        = Nat.ofDigitChars 10 ds (n * 10 + Text.decimalDigit c) := by
      rw [Nat.ofDigitChars_cons, Text.decimalDigit, Nat.mul_comm]
    rw [hvalue] at hle ⊢
    have hfits : ¬ maxWord < n * 10 + Text.decimalDigit c :=
      Nat.not_lt.mpr (Nat.le_trans (le_ofDigitChars _ ds) hle)
    rw [readInteger, if_pos (hds c List.mem_cons_self), if_neg hfits]
    exact ih (fun d hd => hds d (List.mem_cons_of_mem _ hd)) hle

theorem head_toDigits_ne_zero {n : Nat} (hn : n ≠ 0) :
    ∀ c ∈ (Nat.toDigits 10 n).head?, c ≠ '0' := by
  induction n using Nat.strongRecOn with
  | ind n ih =>
    intro c hc
    by_cases hlt : n < 10
    · rw [Nat.toDigits_of_lt_base hlt] at hc
      cases hc
      exact fun h => hn (Nat.digitChar_eq_zero.mp h)
    · rw [Nat.toDigits_of_base_le (by decide) (Nat.le_of_not_lt hlt), List.head?_append] at hc
      refine ih (n / 10) (by omega) (by omega) c ?_
      cases hhead : (Nat.toDigits 10 (n / 10)).head? with
      | none => exact absurd (List.head?_eq_none_iff.mp hhead) Nat.toDigits_ne_nil
      | some d =>
        rw [hhead] at hc
        exact hc

/-- The decimal digits of a number that fits are read as the number. -/
theorem readNumber_toDigits (positive : Bool) {n : Nat} (h : n ≤ maxWord) :
    readNumber positive (Nat.toDigits 10 n) = whole positive n [] := by
  by_cases hn : n = 0
  · subst hn
    rfl
  · have hdigits : ∀ c ∈ Nat.toDigits 10 n, c.isDigit = true := fun c hc =>
      Nat.isDigit_of_mem_toDigits (by decide) (by decide) hc
    have hvalue : Nat.ofDigitChars 10 (Nat.toDigits 10 n) 0 = n := Nat.ofDigitChars_ten_toDigits
    have hread := readInteger_digits hdigits (n := 0) (hvalue.symm ▸ h)
    have hhead := head_toDigits_ne_zero hn
    cases hds : Nat.toDigits 10 n with
    | nil => exact absurd hds Nat.toDigits_ne_nil
    | cons c cs =>
      rw [hds] at hdigits hvalue hread hhead
      rw [readNumber_digit (hhead c rfl) (hdigits c List.mem_cons_self), hread, hvalue, if_pos rfl]
      exact readNumberEnd_of_not_mark (by simp)

end NavigationBar.Json
