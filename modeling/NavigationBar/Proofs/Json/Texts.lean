import NavigationBar.Json.Parser
import NavigationBar.Json.Printer

/-!
# Quoted texts

A text that was quoted is read as it was: every escape that the writer uses stands for the character
that it replaces, and no other character needs one.
-/

namespace NavigationBar.Json

theorem digit?_digitChar : ∀ n < 16, Text.digit? 16 (Nat.digitChar n) = some n := by
  decide

theorem digit?_hexDigit (n : Nat) : Text.digit? 16 (hexDigit n) = some (n % 16) :=
  digit?_digitChar (n % 16) (Nat.mod_lt n (by decide))

/-- The escape of a control character by its number. -/
theorem readUnit_control {n : Nat} (hn : n < 32) (rest : List Char) :
    readUnit ('0' :: '0' :: hexDigit (n / 16) :: hexDigit n :: rest) = .ok (n, rest) := by
  have hfour : hasFourBytes ('0' :: '0' :: hexDigit (n / 16) :: hexDigit n :: rest) = true := by
    have h₁ := Char.utf8Size_pos (hexDigit (n / 16))
    have h₂ := Char.utf8Size_pos (hexDigit n)
    have hzero : '0'.utf8Size = 1 := rfl
    simp only [hasFourBytes, List.take_succ_cons, List.take_zero, List.foldl_cons, List.foldl_nil,
      hzero, decide_eq_true_eq]
    omega
  have hzero : Text.digit? 16 '0' = some 0 := rfl
  have hvalue : (((0 * 16 + 0) * 16 + 0) * 16 + n / 16 % 16) * 16 + n % 16 = n := by omega
  rw [readUnit, if_pos hfour]
  simp only [readUnit.go, hzero, digit?_hexDigit, hvalue]

/-- What is written of one character is read as that character. -/
theorem readString_quotedChar (c : Char) (done : List Char) (fuel : Nat) (rest : List Char) :
    readString done (fuel + 1) (quotedChar c ++ rest) = readString (c :: done) fuel rest := by
  by_cases hquote : c = '"'
  · subst hquote
    rfl
  by_cases hbackslash : c = '\\'
  · subst hbackslash
    rfl
  by_cases hline : c = '\n'
  · subst hline
    rfl
  by_cases hreturn : c = '\r'
  · subst hreturn
    rfl
  by_cases htab : c = '\t'
  · subst htab
    rfl
  have hquoted : quotedChar c =
      if c.toNat = 8 then ['\\', 'b']
      else if c.toNat = 12 then ['\\', 'f']
      else if c.toNat < 32 then ['\\', 'u', '0', '0', hexDigit (c.toNat / 16), hexDigit c.toNat]
      else [c] := by
    simp [quotedChar]
  rw [hquoted]
  split
  · rename_i h
    obtain rfl : c = Char.ofNat 8 := by rw [← h, Char.ofNat_toNat]
    rfl
  · split
    · rename_i h
      obtain rfl : c = Char.ofNat 12 := by rw [← h, Char.ofNat_toNat]
      rfl
    · split
      · rename_i hcontrol
        have hescape : readEscape ('u' :: '0' :: '0' :: hexDigit (c.toNat / 16) :: hexDigit c.toNat
            :: rest) = .ok (c, rest) := by
          have hlow : ¬ (0xDC00 ≤ c.toNat ∧ c.toNat ≤ 0xDFFF) := by omega
          have hhigh : ¬ (0xD800 ≤ c.toNat ∧ c.toNat ≤ 0xDBFF) := by omega
          simp only [readEscape, readUnit_control hcontrol, if_neg hlow, if_neg hhigh,
            Char.ofNat_toNat]
        simp only [List.cons_append, List.nil_append, readString, hescape]
        rfl
      · rename_i hcontrol
        simp only [List.cons_append, List.nil_append, readString, if_neg hquote, if_neg hbackslash,
          if_neg hcontrol]

theorem readString_quoted (cs done rest : List Char) {fuel : Nat} (hfuel : cs.length < fuel) :
    readString done fuel (cs.flatMap quotedChar ++ '"' :: rest)
      = .ok (String.ofList (done.reverse ++ cs), rest) := by
  induction cs generalizing done fuel with
  | nil =>
    obtain ⟨fuel, rfl⟩ := Nat.exists_eq_succ_of_ne_zero (Nat.ne_of_gt hfuel)
    rw [List.append_nil]
    rfl
  | cons c cs ih =>
    obtain ⟨fuel, rfl⟩ := Nat.exists_eq_succ_of_ne_zero (Nat.ne_of_gt (Nat.zero_lt_of_lt hfuel))
    rw [List.flatMap_cons, List.append_assoc, readString_quotedChar,
      ih (c :: done) (Nat.lt_of_succ_lt_succ hfuel), List.reverse_cons, List.append_assoc]
    rfl

theorem length_le_flatMap_quotedChar (cs : List Char) :
    cs.length ≤ (cs.flatMap quotedChar).length := by
  induction cs with
  | nil => exact Nat.le_refl 0
  | cons c cs ih =>
    have hpos : 0 < (quotedChar c).length := by
      unfold quotedChar
      split <;> try simp
      split <;> try simp
      split <;> try simp
      split <;> simp
    rw [List.flatMap_cons, List.length_append, List.length_cons]
    omega

theorem toList_quoted (s : String) :
    (quoted s).toList = '"' :: (s.toList.flatMap quotedChar ++ ['"']) := by
  rw [quoted, String.toList_ofList, List.cons_append]

/-- A quoted text, whose opening quote has been read, is read as the text. -/
theorem readText_quoted (s : String) (rest : List Char) :
    readText (s.toList.flatMap quotedChar ++ '"' :: rest) = .ok (s, rest) := by
  have hlength := length_le_flatMap_quotedChar s.toList
  rw [readText, readString_quoted, List.reverse_nil, List.nil_append, String.ofList_toList]
  rw [List.length_append, List.length_cons]
  omega

end NavigationBar.Json
