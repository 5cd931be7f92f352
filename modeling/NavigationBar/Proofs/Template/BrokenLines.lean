import NavigationBar.Proofs.Template.BareTokens
import NavigationBar.Proofs.Template.Copying
import NavigationBar.Proofs.Template.Respelling

/-!
# Line breaks after a closing brace

Between a closing brace and a word there may be blanks and comments. If they break the line where
statements stand, the brace gets a semicolon, unless the word is `else`: no other word is taken for
one that carries the statement on, although `catch` and `while` may.
-/

namespace NavigationBar.Template

/-! ## Gaps -/

/-- A blank or a comment between two tokens. -/
inductive GapPart where
  /-- A blank. -/
  | blank (c : Char) (h : Text.isBlank c = true)
  /-- A comment up to the end of its line, with the line break. -/
  | line (text : List Char) (h : '\n' ∉ text)
  /-- A comment that ends with the first `*/` in it. -/
  | block (text : List Char) (h : ∀ rest, blockSpan (text ++ rest) = (text, rest))

namespace GapPart

/-- The text of a part. -/
def text : GapPart → List Char
  | blank c _ => [c]
  | line text _ => '/' :: '/' :: (text ++ ['\n'])
  | block text _ => '/' :: '*' :: text

/-- Whether a part ends a line. The line breaks in a comment do not count. -/
def breaksLine : GapPart → Bool
  | blank c _ => c == '\n'
  | line _ _ => true
  | block _ _ => false

end GapPart

/-- The text of a gap. -/
def gapText (gap : List GapPart) : List Char :=
  gap.flatMap GapPart.text

/-- Whether a gap ends a line. -/
def breaksLine (gap : List GapPart) : Bool :=
  gap.any GapPart.breaksLine

@[simp] theorem gapText_cons (part : GapPart) (gap : List GapPart) :
    gapText (part :: gap) = part.text ++ gapText gap := rfl

theorem carriesOn_part (part : GapPart) (rest : List Char) :
    carriesOn (part.text ++ rest) = carriesOn rest := by
  cases part with
  | blank c h => exact carriesOn_blank h rest
  | line text h =>
    have hblank : Text.isBlank '\n' = true := by decide
    simp [GapPart.text, carriesOn_line, lineSpan_of_not_mem h, carriesOn_blank hblank]
  | block text h => simp [GapPart.text, carriesOn_block, h]

theorem carriesOn_gap (gap : List GapPart) (rest : List Char) :
    carriesOn (gapText gap ++ rest) = carriesOn rest := by
  induction gap with
  | nil => rfl
  | cons part gap ih => rw [gapText_cons, List.append_assoc, carriesOn_part, ih]

namespace Spelled

/-! ## Writing a gap -/

theorem endsStatement_loosen (s : Spelled) (text : List Char) :
    (s.loosen text).endsStatement = s.endsStatement := rfl

theorem amongStatements_loosen (s : Spelled) (text : List Char) :
    (s.loosen text).amongStatements = s.amongStatements := rfl

theorem endStatement_loosen (s : Spelled) (text : List Char) :
    (s.loosen text).endStatement = s.endStatement.loosen text := rfl

theorem loosen_loosen (s : Spelled) (text more : List Char) :
    (s.loosen text).loosen more = s.loosen (text ++ more) := by
  simp [loosen]

theorem endsStatement_endStatement (s : Spelled) : s.endStatement.endsStatement = false := by
  have hsemicolon : isWordChar ';' = false := by decide
  simp [endStatement, endsStatement, hsemicolon]

/-- A respelling after a gap, and then code that carries a statement on, or not. -/
def pass (s : Spelled) (gap : List GapPart) (carriesOn : Bool) : Spelled :=
  (if s.endsStatement && s.amongStatements && !carriesOn && breaksLine gap then s.endStatement
    else s).loosen (gapText gap)

section Pass

variable (s : Spelled) (gap : List GapPart) {carriesOn : Bool}

theorem pass_of_unbroken (h : breaksLine gap = false) :
    s.pass gap carriesOn = s.loosen (gapText gap) := by
  rw [pass, h, Bool.and_false, if_neg Bool.false_ne_true]

theorem pass_of_not_end (h : (s.endsStatement && s.amongStatements && !carriesOn) = false) :
    s.pass gap carriesOn = s.loosen (gapText gap) := by
  rw [pass, h, Bool.false_and, if_neg Bool.false_ne_true]

theorem pass_of_end (h : (s.endsStatement && s.amongStatements && !carriesOn) = true)
    (hbreaks : breaksLine gap = true) :
    s.pass gap carriesOn = s.endStatement.loosen (gapText gap) := by
  rw [pass, h, hbreaks, Bool.true_and, if_pos rfl]

/-- A statement is ended once. -/
theorem pass_cons (part : GapPart) :
    (s.pass [part] carriesOn).pass gap carriesOn = s.pass (part :: gap) carriesOn := by
  have htext : gapText [part] ++ gapText gap = gapText (part :: gap) := by simp [gapText]
  have hsingle : breaksLine [part] = part.breaksLine := Bool.or_false _
  have hbreaks : breaksLine (part :: gap) = (part.breaksLine || breaksLine gap) := rfl
  cases hend : s.endsStatement && s.amongStatements && !carriesOn with
  | false =>
    rw [s.pass_of_not_end [part] hend, (s.loosen (gapText [part])).pass_of_not_end gap hend,
      s.pass_of_not_end (part :: gap) hend, loosen_loosen, htext]
  | true =>
    cases hpart : part.breaksLine with
    | true =>
      rw [hpart] at hsingle hbreaks
      have hended : ((s.endStatement.loosen (gapText [part])).endsStatement &&
          (s.endStatement.loosen (gapText [part])).amongStatements && !carriesOn) = false := by
        rw [endsStatement_loosen, endsStatement_endStatement, Bool.false_and, Bool.false_and]
      rw [s.pass_of_end _ hend hsingle, pass_of_not_end _ _ hended, s.pass_of_end _ hend hbreaks,
        loosen_loosen, htext]
    | false =>
      rw [hpart] at hsingle hbreaks
      rw [s.pass_of_unbroken _ hsingle]
      cases hgap : breaksLine gap with
      | true =>
        rw [hgap] at hbreaks
        rw [(s.loosen (gapText [part])).pass_of_end gap hend hgap, s.pass_of_end _ hend hbreaks,
          endStatement_loosen, loosen_loosen, htext]
      | false =>
        rw [hgap] at hbreaks
        rw [pass_of_unbroken _ _ hgap, s.pass_of_unbroken _ hbreaks, loosen_loosen, htext]

end Pass

theorem write_blank (s : Spelled) {c : Char} (h : Text.isBlank c = true) :
    s.write (.other c) = s.loosen [c] := by
  have htrack : track s.opened c = s.opened := by
    have hne : c ∉ ['(', '[', '\x7b', ')', ']', '\x7d'] := not_mem_of_all (by decide) h
    simp only [List.mem_cons, List.not_mem_nil, or_false, not_or] at hne
    simp [track, hne]
  rw [write, htrack, if_pos h]

theorem write_lineBreak (s : Spelled) (part : GapPart) (carriesOn : Bool)
    (hbreaks : part.breaksLine = true) (text : List Char) (htext : part.text = text ++ ['\n']) :
    (s.loosen text).write (.lineBreak carriesOn) = s.pass [part] carriesOn := by
  have hsingle : breaksLine [part] = true := (Bool.or_false _).trans hbreaks
  have hgap : gapText [part] = text ++ ['\n'] := (List.append_nil _).trans htext
  cases hend : s.endsStatement && s.amongStatements && !carriesOn with
  | true =>
    rw [s.pass_of_end _ hend hsingle, write, endsStatement_loosen, amongStatements_loosen, hend,
      if_pos rfl, endStatement_loosen, loosen_loosen, hgap]
  | false =>
    rw [s.pass_of_not_end _ hend, write, endsStatement_loosen, amongStatements_loosen, hend,
      if_neg Bool.false_ne_true, loosen_loosen, hgap]

theorem foldl_part (s : Spelled) (part : GapPart) (rest : List Char) :
    (pieces (part.text ++ rest)).foldl write s =
      (pieces rest).foldl write (s.pass [part] (carriesOn rest)) := by
  cases part with
  | blank c h =>
    by_cases hbreak : c = '\n'
    · subst hbreak
      have hwrite := s.write_lineBreak (.blank '\n' h) (carriesOn rest) rfl [] rfl
      rw [← hwrite]
      exact congrArg (List.foldl write s) (Piece.Cuts.lineBreak rest).pieces_eq
    · have hcuts := Piece.Cuts.other (isOther_of_isBlank h hbreak rest)
      have hsingle : breaksLine [.blank c h] = false := by simpa [breaksLine, GapPart.breaksLine]
      rw [s.pass_of_unbroken _ hsingle]
      refine (congrArg (List.foldl write s) hcuts.pieces_eq).trans ?_
      rw [List.foldl_cons, s.write_blank h]
      rfl
  | line text h =>
    have hcuts := Piece.Cuts.line (text ++ '\n' :: rest)
    rw [lineSpan_of_not_mem h] at hcuts
    have hwrite := s.write_lineBreak (.line text h) (carriesOn rest) rfl ('/' :: '/' :: text) rfl
    have htext : (GapPart.line text h).text ++ rest = '/' :: '/' :: (text ++ '\n' :: rest) := by
      simp [GapPart.text]
    rw [← hwrite, htext, hcuts.pieces_eq, (Piece.Cuts.lineBreak rest).pieces_eq]
    rfl
  | block text h =>
    have hcuts := Piece.Cuts.block (text ++ rest)
    rw [h] at hcuts
    have hgap : gapText [.block text h] = '/' :: '*' :: text := List.append_nil _
    rw [s.pass_of_unbroken _ rfl, hgap]
    exact congrArg (List.foldl write s) hcuts.pieces_eq

/-- The pieces of a gap come to the gap as a whole. -/
theorem foldl_gap (s : Spelled) (gap : List GapPart) (rest : List Char) :
    (pieces (gapText gap ++ rest)).foldl write s =
      (pieces rest).foldl write (s.pass gap (carriesOn rest)) := by
  induction gap generalizing s with
  | nil =>
    rw [s.pass_of_unbroken [] rfl]
    rfl
  | cons part gap ih =>
    rw [gapText_cons, List.append_assoc, foldl_part, ih, carriesOn_gap, pass_cons]

/-! ## What was written before -/

/-- A respelling after some other text. -/
def after (s : Spelled) (base : List Char) : Spelled :=
  { s with settled := s.settled ++ base }

theorem write_after (s : Spelled) (base : List Char) (p : Piece) :
    (s.after base).write p = (s.write p).after base := by
  cases p with
  | lineBreak carriesOn =>
    have hends : (s.after base).endsStatement = s.endsStatement := rfl
    have hamong : (s.after base).amongStatements = s.amongStatements := rfl
    simp only [write, hends, hamong]
    split <;> rfl
  | other c =>
    simp only [write]
    split <;> simp [after, loosen, settle]
  | word w =>
    have hprevious : (s.after base).previous = s.previous := rfl
    simp only [write, hprevious]
    simp [after, settle]
  | quoted | comment | strictOperator => simp [write, after, loosen, settle]

theorem foldl_after (s : Spelled) (base : List Char) (ps : List Piece) :
    ps.foldl write (s.after base) = (ps.foldl write s).after base := by
  induction ps generalizing s with
  | nil => rfl
  | cons p ps ih => rw [List.foldl_cons, List.foldl_cons, write_after, ih]

/-- What a gap comes to after a brace where statements stand. -/
theorem pass_of_brace (s : Spelled) (hloose : s.loose = []) (hbrace : s.previous = some '\x7d')
    (hlevel : s.amongStatements = true) (gap : List GapPart) (carriesOn : Bool) :
    (s.pass gap carriesOn).previous ≠ some '.' ∧ (s.pass gap carriesOn).opened = s.opened ∧
      (s.pass gap carriesOn).text = s.text ++
        ((if breaksLine gap = true ∧ carriesOn = false then [';'] else []) ++ gapText gap) := by
  have hends : s.endsStatement = true := by
    rw [endsStatement, hbrace]
    rfl
  have hloosen : (s.loosen (gapText gap)).previous ≠ some '.' ∧
      (s.loosen (gapText gap)).opened = s.opened ∧
      (s.loosen (gapText gap)).text = s.text ++ gapText gap := by
    refine ⟨?_, rfl, s.text_loosen _⟩
    rw [loosen, hbrace]
    decide
  cases hbreaks : breaksLine gap with
  | false =>
    rw [s.pass_of_unbroken gap hbreaks, if_neg (fun h => Bool.false_ne_true h.1)]
    exact hloosen
  | true =>
    cases carriesOn with
    | true =>
      have hend : (s.endsStatement && s.amongStatements && !true) = false := Bool.and_false _
      rw [s.pass_of_not_end gap hend, if_neg (fun h => Bool.noConfusion h.2)]
      exact hloosen
    | false =>
      have hend : (s.endsStatement && s.amongStatements && !false) = true := by
        rw [hends, hlevel]
        rfl
      rw [s.pass_of_end gap hend hbreaks, if_pos ⟨rfl, rfl⟩]
      refine ⟨?_, rfl, ?_⟩
      · show some ';' ≠ some '.'
        decide
      rw [text_loosen, endStatement, text, text, hloose]
      simp

/-- A word that is no property name is written as it would be if nothing had been written. -/
theorem write_word (s : Spelled) (w : List Char) (h : s.previous ≠ some '.') :
    s.write (.word w) =
      ({ previous := some (w.getLast?.getD ' '), opened := s.opened } : Spelled).after
        (s.text ++ scriptWord w).reverse := by
  simp [write, h, settle, after, text]

theorem text_after (s : Spelled) (base : List Char) :
    (s.after base).text = base.reverse ++ s.text := by
  simp [text, after]

end Spelled

/-! ## The tokens of a gap -/

theorem GapPart.isSkipped (part : GapPart) : IsSkipped part.text := by
  cases part with
  | blank c h => exact isSkipped_blank h
  | line text h => exact isSkipped_line h
  | block text h => exact isSkipped_block h

theorem isSkipped_gapText (gap : List GapPart) : IsSkipped (gapText gap) := by
  induction gap with
  | nil => exact isSkipped_nil
  | cons part gap ih => exact part.isSkipped.append ih

theorem gapText_ne_nil {gap : List GapPart} (h : gap ≠ []) : gapText gap ≠ [] := by
  cases gap with
  | nil => exact absurd rfl h
  | cons part gap =>
    rw [gapText_cons]
    cases part <;> exact List.cons_ne_nil _ _

/-- A gap in front of what counts is one token. -/
theorem bareTokens_gap {gap : List GapPart} (hgap : gap ≠ []) {rest : List Char}
    (hrest : ∀ u ∈ (tokens rest).head?, u.kind ≠ .trivia) :
    bareTokens (gapText gap ++ rest) = Token.space :: bareTokens rest := by
  have hwhole := (isSkipped_gapText gap).isWhole (gapText_ne_nil hgap)
  have hnext : ∀ u ∈ (tokens rest).head?, Token.Precedes ⟨.trivia, gapText gap⟩ u := fun u hu =>
    ⟨fun h => TokenKind.noConfusion h, fun _ => hrest u hu, fun h => TokenKind.noConfusion h⟩
  obtain ⟨d, ds, hds, hread⟩ := hwhole.read hnext
  rw [hds, bareTokens, tokens_cons, hread]
  rfl

/-! ## Words after a brace -/

/-- The respelling of a body before it ends. -/
def spelled (body : List Char) : Spelled :=
  (pieces body).foldl Spelled.write {}

theorem respell_eq_text (body : List Char) : respell body = (spelled body).text := rfl

/-- A body respelled where the brackets `opened` are open. -/
def respellWithin (opened : List Char) (body : List Char) : List Char :=
  ((pieces body).foldl Spelled.write { opened := opened }).text

variable {head tail cs : List Char} {c : Char}

theorem EndsInBrace.spelled_append (h : EndsInBrace head) (rest : List Char) :
    spelled (head ++ rest) = (pieces rest).foldl Spelled.write (spelled head) := by
  rw [spelled, h.pieces_append, List.foldl_append]
  rfl

/-- Nothing is loose after a brace. -/
theorem EndsInBrace.exists_spelled (h : EndsInBrace head) :
    ∃ s : Spelled, spelled head = s.settle ['\x7d'] '\x7d' := by
  obtain ⟨ps, hps⟩ := List.getLast?_eq_some_iff.mp h
  refine ⟨{ (ps.foldl Spelled.write {}) with
    opened := Spelled.track (ps.foldl Spelled.write {}).opened '\x7d' }, ?_⟩
  rw [spelled, hps, List.foldl_append]
  rfl

section Word

variable (hstart : isWordStart c = true) (hword : ∀ d ∈ cs, isWordChar d = true)
  (htail : ∀ d ∈ tail.head?, isWordChar d = false)

include hstart hword htail

/-- What is written from a word on depends on what was written before only in the brackets that are
open. -/
theorem text_foldl_word (s : Spelled) (hprevious : s.previous ≠ some '.') :
    ((pieces (c :: cs ++ tail)).foldl Spelled.write s).text = s.text ++
      (Spelled.scriptWord (c :: cs) ++ ((pieces tail).foldl Spelled.write
        { previous := some ((c :: cs).getLast?.getD ' '), opened := s.opened }).text) := by
  have hcuts := Piece.Cuts.word (cs ++ tail) hstart
  rw [wordSpan_append_eq hword htail] at hcuts
  rw [List.cons_append, hcuts.pieces_eq, List.foldl_cons, s.write_word _ hprevious,
    Spelled.foldl_after, Spelled.text_after, List.reverse_reverse, List.append_assoc]

theorem respellWithin_word (opened : List Char) :
    respellWithin opened (c :: cs ++ tail) =
      Spelled.scriptWord (c :: cs) ++ ((pieces tail).foldl Spelled.write
        { previous := some ((c :: cs).getLast?.getD ' '), opened := opened }).text :=
  text_foldl_word hstart hword htail { opened := opened } (Option.some_ne_none '.').symm

/-- A word is not respelled to trivia. -/
theorem head?_tokens_respellWithin (opened : List Char) :
    ∀ u ∈ (tokens (respellWithin opened (c :: cs ++ tail))).head?, u.kind ≠ .trivia := by
  have hchars : ∀ d ∈ c :: cs, isWordChar d = true :=
    List.forall_mem_cons.mpr ⟨isWordChar_of_isWordStart hstart, hword⟩
  have hspelling := isSpelling_scriptWord hchars
  rw [respellWithin_word hstart hword htail opened]
  cases htext : Spelled.scriptWord (c :: cs) with
  | nil => exact absurd htext hspelling.ne_nil
  | cons d ds =>
    rw [htext] at hspelling
    intro u hu hk
    rw [List.cons_append, tokens_cons, List.head?_cons, Option.mem_some_iff] at hu
    rw [← hu] at hk
    refine not_beginsTrivia (hspelling.blank d rfl) ?_ _ (Token.beginsTrivia_of_kind hk)
    rintro rfl
    exact hspelling.head.1 rfl

variable (hbrace : EndsInBrace head) (hlevel : (spelled head).amongStatements = true)

include hbrace hlevel

/-- What is written between a brace where statements stand and a word, and after it. What is written
from the word on does not depend on the gap. -/
theorem EndsInBrace.respell_gap (gap : List GapPart) :
    respell (head ++ (gapText gap ++ (c :: cs ++ tail))) = respell head ++
      ((if breaksLine gap = true ∧ c :: cs ≠ "else".toList then [';'] else []) ++
        (gapText gap ++ respellWithin (spelled head).opened (c :: cs ++ tail))) := by
  obtain ⟨s, hs⟩ := hbrace.exists_spelled
  have hcarries := carriesOn_word hstart hword htail
  obtain ⟨hprevious, hopened, htext⟩ := (spelled head).pass_of_brace (by rw [hs]; rfl)
    (by rw [hs]; rfl) hlevel gap (decide (c :: cs = "else".toList))
  rw [respell_eq_text, hbrace.spelled_append, Spelled.foldl_gap, hcarries,
    text_foldl_word hstart hword htail _ hprevious, hopened, htext,
    respellWithin_word hstart hword htail]
  simp only [List.append_assoc, decide_eq_false_iff_not, ne_eq]
  rfl

/-- The tokens around a gap between a brace and a word. -/
theorem EndsInBrace.bareTokens_respell_gap {gap : List GapPart} (hgap : gap ≠ []) :
    bareTokens (respell (head ++ (gapText gap ++ (c :: cs ++ tail)))) = bareTokens (respell head) ++
      ((if breaksLine gap = true ∧ c :: cs ≠ "else".toList then [Token.ofMark ';'] else []) ++
        Token.space :: bareTokens (respellWithin (spelled head).opened (c :: cs ++ tail))) := by
  have hnext := head?_tokens_respellWithin hstart hword htail (spelled head).opened
  rw [hbrace.respell_gap hstart hword htail hlevel gap, bareTokens, hbrace.tokens_respell_append,
    List.map_append, ← bareTokens_gap hgap hnext]
  split
  · rw [List.singleton_append, tokens_mark (by decide) (by decide) (by decide) (by decide)]
    rfl
  · rfl

/-- A gap without a line break, and any gap in front of `else`, counts as much as a space does. -/
theorem EndsInBrace.bareTokens_respell_carried {gap : List GapPart} (hgap : gap ≠ [])
    (hcarried : breaksLine gap = true → c :: cs = "else".toList) :
    bareTokens (respell (head ++ (gapText gap ++ (c :: cs ++ tail)))) = bareTokens (respell head) ++
      Token.space :: bareTokens (respellWithin (spelled head).opened (c :: cs ++ tail)) := by
  have hnone : ¬ (breaksLine gap = true ∧ c :: cs ≠ "else".toList) := fun h => h.2 (hcarried h.1)
  rw [hbrace.bareTokens_respell_gap hstart hword htail hlevel hgap, if_neg hnone, List.nil_append]

theorem EndsInBrace.bareTokens_respell_space :
    bareTokens (respell (head ++ ' ' :: (c :: cs ++ tail))) = bareTokens (respell head) ++
      Token.space :: bareTokens (respellWithin (spelled head).opened (c :: cs ++ tail)) := by
  have hblank : Text.isBlank ' ' = true := by decide
  have hunbroken : breaksLine [.blank ' ' hblank] = false := rfl
  refine hbrace.bareTokens_respell_carried hstart hword htail hlevel
    (List.cons_ne_nil (.blank ' ' hblank) []) fun hbreaks => ?_
  rw [hunbroken] at hbreaks
  cases hbreaks

end Word

/-- Where statements stand, a gap that breaks the line between a closing brace and a word gets a
semicolon in front of it exactly if the word is not `else`. So `else` goes on with the same tokens
as after a space, and any other word does not: there is one semicolon more. -/
theorem normalize_word_after_brace (hbrace : EndsInBrace head)
    (hlevel : (spelled head).amongStatements = true) (hstart : isWordStart c = true)
    (hword : ∀ d ∈ cs, isWordChar d = true) (htail : ∀ d ∈ tail.head?, isWordChar d = false)
    {gap : List GapPart} (hgap : breaksLine gap = true) :
    respell (head ++ (gapText gap ++ (c :: cs ++ tail))) = respell head ++
      ((if c :: cs = "else".toList then [] else [';']) ++
        (gapText gap ++ respellWithin (spelled head).opened (c :: cs ++ tail))) ∧
    (QuotesClosed (respell (head ++ ' ' :: (c :: cs ++ tail))) →
      (c :: cs = "else".toList →
        significant (normalize (head ++ (gapText gap ++ (c :: cs ++ tail)))) =
          significant (normalize (head ++ ' ' :: (c :: cs ++ tail)))) ∧
      (c :: cs ≠ "else".toList →
        (significant (normalize (head ++ (gapText gap ++ (c :: cs ++ tail))))).count
            (Token.ofMark ';') =
          (significant (normalize (head ++ ' ' :: (c :: cs ++ tail)))).count
            (Token.ofMark ';') + 1)) := by
  have hne : gap ≠ [] := by
    rintro rfl
    exact absurd hgap Bool.false_ne_true
  have hspaced := hbrace.bareTokens_respell_space hstart hword htail hlevel
  refine ⟨?_, fun hclosed => ⟨fun helse => ?_, fun helse => ?_⟩⟩
  · rw [hbrace.respell_gap hstart hword htail hlevel]
    by_cases helse : c :: cs = "else".toList
    · rw [if_neg fun h => h.2 helse, if_pos helse]
    · rw [if_pos ⟨hgap, helse⟩, if_neg helse]
  · have hbroken := hbrace.bareTokens_respell_carried hstart hword htail hlevel hne fun _ => helse
    rw [significant_eq, significant_eq, normalize, normalize,
      bareTokens_eraseConditionals (hspaced.trans hbroken.symm) hclosed]
  · have hbroken := hbrace.bareTokens_respell_gap hstart hword htail hlevel hne
    rw [if_pos ⟨hgap, helse⟩] at hbroken
    have hclosed' : QuotesClosed (respell (head ++ (gapText gap ++ (c :: cs ++ tail)))) := by
      rw [quotesClosed_iff, hspaced, List.forall_mem_append] at hclosed
      rw [quotesClosed_iff, hbroken, List.forall_mem_append, List.forall_mem_append]
      exact ⟨hclosed.1, List.forall_mem_singleton.mpr rfl, hclosed.2⟩
    have hmark : ';' ∉ conditionalMarks := by decide
    rw [normalize, normalize, hclosed.count_eraseConditionals hmark,
      hclosed'.count_eraseConditionals hmark, significant_eq, significant_eq, hspaced, hbroken]
    simp only [List.filter_append, List.count_append]
    have hone : ([Token.ofMark ';'].filter (·.kind ≠ .trivia)).count (Token.ofMark ';') = 1 := by
      decide
    omega

/-- A comment and a line break before `else`. -/
theorem normalize_word_after_brace_else :
    respell "if a \x7b b \x7d // c?\n else \x7b 'd' \x7d".toList =
      "if a \x7b b \x7d // c?\n else \x7b \"d\" \x7d".toList ∧
    significant (normalize "if a \x7b b \x7d // c?\n else \x7b 'd' \x7d".toList) =
      significant (normalize "if a \x7b b \x7d else \x7b 'd' \x7d".toList) := by
  have hblank : Text.isBlank ' ' = true := by decide
  have hline : '\n' ∉ " c?".toList := by decide
  have hbrace : EndsInBrace "if a \x7b b \x7d".toList := by decide +kernel
  have hlevel : (spelled "if a \x7b b \x7d".toList).amongStatements = true := by decide +kernel
  have hstart : isWordStart 'e' = true := by decide
  have hword : ∀ d ∈ "lse".toList, isWordChar d = true := List.all_eq_true.1 (by decide)
  have htail : ∀ d ∈ (" \x7b 'd' \x7d".toList).head?, isWordChar d = false := by
    rintro d ⟨⟩
    decide
  have hgap : breaksLine [.blank ' ' hblank, .line " c?".toList hline, .blank ' ' hblank] = true :=
    rfl
  have hclosed : QuotesClosed (respell "if a \x7b b \x7d else \x7b 'd' \x7d".toList) := by
    decide +kernel
  obtain ⟨-, htokens⟩ := normalize_word_after_brace hbrace hlevel hstart hword htail hgap
  exact ⟨by decide +kernel, (htokens hclosed).1 rfl⟩

/-- `catch` and `while` carry on the statements of `try` and `do`, but not after a line break: the
semicolon cuts these statements in two. -/
theorem statements_cut_in_two :
    normalize "try \x7b a \x7d\ncatch (e) \x7b b \x7d".toList =
      "try \x7b a \x7d;\ncatch (e) \x7b b \x7d".toList ∧
    normalize "do \x7b a \x7d\nwhile c".toList = "do \x7b a \x7d;\nwhile c".toList ∧
    significant (normalize "try \x7b a \x7d\ncatch (e) \x7b b \x7d".toList) ≠
      significant (normalize "try \x7b a \x7d catch (e) \x7b b \x7d".toList) ∧
    significant (normalize "do \x7b a \x7d\nwhile c".toList) ≠
      significant (normalize "do \x7b a \x7d while c".toList) := by
  decide +kernel

end NavigationBar.Template
