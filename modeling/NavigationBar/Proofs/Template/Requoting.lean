import NavigationBar.Proofs.Template.Copying
import NavigationBar.Proofs.Template.Pieces

/-!
# Quotes change, values do not

A text in single quotes becomes one in double quotes. The characters before the first single quote
that no backslash precedes are taken part by part, so writer and reader never differ on which
backslash belongs to what: the new text ends where it should, and denotes what the old one does.
-/

namespace NavigationBar.Template

/-! ## What quoted texts denote -/

/-- What a part of a quoted text denotes. -/
inductive Denoted where
  /-- A character. -/
  | char (c : Char)
  /-- What a backslash makes of a character that is no quote. -/
  | escape (c : Char)
deriving DecidableEq, Repr

/-- What a backslash and a character denote: a quote of either kind stands for itself. -/
def Denoted.ofEscape (c : Char) : Denoted :=
  if c = '\'' ∨ c = '"' then char c else escape c

/-- What the inside of a quoted text denotes. -/
def denoted : List Char → List Denoted
  | [] => []
  | '\\' :: c :: cs => .ofEscape c :: denoted cs
  | c :: cs => .char c :: denoted cs

theorem denoted_plain {c : Char} (h : c ≠ '\\') (cs : List Char) :
    denoted (c :: cs) = .char c :: denoted cs := by
  rw [denoted]
  exact fun _ _ hc _ => h hc

/-! ## Texts in single quotes -/

/-- A part of a text in single quotes. -/
inductive SingleQuotedPart where
  /-- A character that stands for itself. -/
  | plain (c : Char) (hquote : c ≠ '\'') (hescape : c ≠ '\\')
  /-- A backslash and the character after it. -/
  | escaped (c : Char)

namespace SingleQuotedPart

/-- The characters of a part. -/
def text : SingleQuotedPart → List Char
  | plain c _ _ => [c]
  | escaped c => ['\\', c]

/-- A part as double quotes have it: a double quote needs a backslash now, and a single quote none.
-/
def requoted : SingleQuotedPart → QuotedPart
  | plain c _ hescape => if h : c = '"' then .escaped '"' else .plain c h hescape
  | escaped c => if c = '\'' then .plain '\'' (by decide) (by decide) else .escaped c

end SingleQuotedPart

/-- A text in single quotes after its opening quote. -/
def singleQuotedInner (parts : List SingleQuotedPart) : List Char :=
  parts.flatMap SingleQuotedPart.text ++ ['\'']

variable {parts : List SingleQuotedPart} {rest : List Char}

theorem requote_plain {c : Char} (hquote : c ≠ '\'') (hescape : c ≠ '\\') (hdouble : c ≠ '"')
    (cs : List Char) : requote (c :: cs) = (c :: (requote cs).1, (requote cs).2) := by
  rw [requote]
  · exact fun hc _ => hescape hc
  · exact fun _ hc _ => hescape hc
  · exact fun _ _ hc _ => hescape hc
  · exact hdouble
  · exact hquote

theorem requote_escaped {c : Char} (h : c ≠ '\'') (cs : List Char) :
    requote ('\\' :: c :: cs) = ('\\' :: c :: (requote cs).1, (requote cs).2) := by
  rw [requote]
  exact h

/-- The requoting takes a text in single quotes part by part and stops after its closing quote. -/
theorem requote_singleQuotedInner (parts : List SingleQuotedPart) (rest : List Char) :
    requote (singleQuotedInner parts ++ rest) =
      ((parts.map SingleQuotedPart.requoted).flatMap QuotedPart.text, rest) := by
  induction parts with
  | nil => rfl
  | cons part parts ih =>
    have hinner : singleQuotedInner (part :: parts) ++ rest =
        part.text ++ (singleQuotedInner parts ++ rest) := by
      simp [singleQuotedInner]
    rw [hinner, List.map_cons, List.flatMap_cons]
    cases part with
    | plain c hquote hescape =>
      by_cases hdouble : c = '"'
      · subst hdouble
        exact congrArg (fun p => ('\\' :: '"' :: p.1, p.2)) ih
      · rw [SingleQuotedPart.text, List.singleton_append,
          requote_plain hquote hescape hdouble, ih, SingleQuotedPart.requoted, dif_neg hdouble]
        rfl
    | escaped c =>
      by_cases hquote : c = '\''
      · subst hquote
        exact congrArg (fun p => ('\'' :: p.1, p.2)) ih
      · rw [SingleQuotedPart.text, List.cons_append, List.singleton_append, requote_escaped hquote,
          ih, SingleQuotedPart.requoted, if_neg hquote]
        rfl

/-- A part denotes the same in quotes of either kind, whatever follows it. -/
theorem denoted_requoted (part : SingleQuotedPart) (cs ds : List Char)
    (h : denoted cs = denoted ds) :
    denoted (part.requoted.text ++ cs) = denoted (part.text ++ ds) := by
  cases part with
  | plain c hquote hescape =>
    by_cases hdouble : c = '"'
    · subst hdouble
      rw [show SingleQuotedPart.requoted (.plain '"' hquote hescape) = .escaped '"' from rfl]
      show Denoted.char '"' :: denoted cs = denoted ('"' :: ds)
      rw [denoted_plain hescape, h]
    · rw [SingleQuotedPart.requoted, dif_neg hdouble]
      show denoted (c :: cs) = denoted (c :: ds)
      rw [denoted_plain hescape, denoted_plain hescape, h]
  | escaped c =>
    by_cases hquote : c = '\''
    · subst hquote
      show denoted ('\'' :: cs) = Denoted.char '\'' :: denoted ds
      rw [denoted_plain (by decide), h]
    · rw [SingleQuotedPart.requoted, if_neg hquote]
      show Denoted.ofEscape c :: denoted cs = Denoted.ofEscape c :: denoted ds
      rw [h]

theorem denoted_map_requoted (parts : List SingleQuotedPart) :
    denoted ((parts.map SingleQuotedPart.requoted).flatMap QuotedPart.text) =
      denoted (parts.flatMap SingleQuotedPart.text) := by
  induction parts with
  | nil => rfl
  | cons part parts ih =>
    rw [List.map_cons, List.flatMap_cons, List.flatMap_cons]
    exact denoted_requoted part _ _ ih

/-! ## From single quotes to double quotes -/

/-- A text in single quotes is one piece of a body, whatever follows it. It is written as a text in
double quotes that ends with the quote written last, whatever follows that one, and denotes the same
characters and escapes. -/
theorem requoted_denotes_same (parts : List SingleQuotedPart) (rest : List Char) :
    let parts' := parts.map SingleQuotedPart.requoted
    pieces ('\'' :: (singleQuotedInner parts ++ rest)) =
        .quoted '"' ('"' :: quotedInner parts') :: pieces rest ∧
      (∀ s : Spelled, (s.write (.quoted '"' ('"' :: quotedInner parts'))).text =
        s.text ++ '"' :: quotedInner parts') ∧
      (∀ more, quotedSpan '"' (quotedInner parts' ++ more) = (quotedInner parts', more)) ∧
      denoted (parts'.flatMap QuotedPart.text) =
        denoted (parts.flatMap SingleQuotedPart.text) := by
  intro parts'
  refine ⟨?_, fun s => s.text_settle _ _, quotedSpan_quotedInner parts',
    denoted_map_requoted parts⟩
  have hcuts := Piece.Cuts.requoted (singleQuotedInner parts ++ rest)
  rw [hcuts.pieces_eq, requote_singleQuotedInner]
  rfl

/-- Quotes of both kinds, with a backslash and without, and a backslash before the last quote. -/
example : respell "f('it\\'s \"a\" \\\"b\\\\')".toList =
    "f(\"it's \\\"a\\\" \\\"b\\\\\")".toList := by
  decide +kernel

end NavigationBar.Template
