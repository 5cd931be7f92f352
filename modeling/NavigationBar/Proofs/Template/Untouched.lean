import NavigationBar.Proofs.Template.Copying
import NavigationBar.Proofs.Template.Unfolding
import NavigationBar.Proofs.Template.Pieces

/-!
# Code that needs no rewriting

Quoted texts and comments are no code: whatever stands in them, the normalization leaves a body
alone if the code outside of them is as scripts have it. What is code is told by a scan of its own
(`stretches`), and both passes, which read a body in pieces and in tokens, only ever cut it where
that scan does.
-/

namespace NavigationBar.Template

/-! ## Quoted texts, comments and code -/

/-- A stretch of a body. -/
inductive Stretch where
  /-- A quoted text. -/
  | quoted (text : List Char)
  /-- A comment, without the line break that ends it. -/
  | comment (text : List Char)
  /-- A character outside of quoted texts and comments. -/
  | code (c : Char)
deriving DecidableEq

namespace Stretch

/-- The characters of a stretch. -/
def text : Stretch → List Char
  | quoted text => text
  | comment text => text
  | code c => [c]

/-- Reads the first stretch of a body that begins with the character `c`. -/
def read (c : Char) (cs : List Char) : Stretch × List Char :=
  if c = '"' ∨ c = '`' then
    let (text, left) := quotedSpan c cs
    (.quoted (c :: text), left)
  else if c = '/' ∧ cs.head? = some '/' then
    let (text, left) := lineSpan cs
    (.comment (c :: text), left)
  else if c = '/' ∧ cs.head? = some '*' then
    let (text, left) := blockSpan (cs.drop 1)
    (.comment ('/' :: '*' :: text), left)
  else (.code c, cs)

theorem read_length (c : Char) (cs : List Char) : (read c cs).2.length ≤ cs.length := by
  unfold read
  split
  · exact quotedSpan_length c cs
  split
  · exact lineSpan_length cs
  split
  · exact Nat.le_trans (blockSpan_length _) (by simp)
  · exact Nat.le_refl _

/-- Whether a stretch is a character of the code that can stand in a word. -/
def isWordChar : Stretch → Bool
  | code c => Template.isWordChar c
  | _ => false

/-- Whether a stretch is a character of the code that can begin a word. -/
def isWordStart : Stretch → Bool
  | code c => Template.isWordStart c
  | _ => false

/-- The character by which a stretch counts; blanks and comments do not. -/
def significant? : Stretch → Option Char
  | quoted text => text.head?
  | comment _ => none
  | code c => if Text.isBlank c then none else some c

end Stretch

/-- The stretches of a body. -/
def stretches : List Char → List Stretch
  | [] => []
  | c :: cs => (Stretch.read c cs).1 :: stretches (Stretch.read c cs).2
termination_by cs => cs.length
decreasing_by
  have := Stretch.read_length c cs
  simp only [List.length_cons]
  omega

/-- The last character before a position that counts. -/
def lastSignificant (before : List Stretch) : Option Char :=
  before.reverse.findSome? Stretch.significant?

/-- Whether what stands before a position ends in a word that word characters would go on with.
Digits alone are no word. -/
def endsInWord (before : List Stretch) : Bool :=
  (before.reverse.takeWhile Stretch.isWordChar).any Stretch.isWordStart

/-- The words that are respelled where they are no property names. -/
def respelledWords : List (List Char) :=
  ["null".toList, "undefined".toList, "var".toList]

/-- Whether the code at a position between two lists of stretches is as scripts have it. -/
structure IsScriptAt (before after : List Stretch) : Prop where
  /-- There is no single quote. -/
  quote : after.head? ≠ some (.code '\'')
  /-- There is no line break. -/
  lineBreak : after.head? ≠ some (.code '\n')
  /-- There is no strict operator. -/
  strict : ∀ op ∈ ["===".toList, "!==".toList], ¬ op.map .code <+: after
  /-- A question mark is part of `??`, `?.` or `?[`. -/
  question : after.head? = some (.code '?') → before.getLast? = some (.code '?') ∨
    ∃ next ∈ "?.[".toList.map Stretch.code, after[1]? = some next
  /-- A word that would be respelled comes after a dot. -/
  word : ∀ w ∈ respelledWords, w.map .code <+: after → endsInWord before = false →
    (∀ next ∈ after[w.length]?, next.isWordChar = false) → lastSignificant before = some '.'

instance (before after : List Stretch) : Decidable (IsScriptAt before after) :=
  decidable_of_iff
    (after.head? ≠ some (.code '\'') ∧ after.head? ≠ some (.code '\n') ∧
      (∀ op ∈ ["===".toList, "!==".toList], ¬ op.map .code <+: after) ∧
      (after.head? = some (.code '?') → before.getLast? = some (.code '?') ∨
        ∃ next ∈ "?.[".toList.map Stretch.code, after[1]? = some next) ∧
      ∀ w ∈ respelledWords, w.map .code <+: after → endsInWord before = false →
        (∀ next ∈ after[w.length]?, next.isWordChar = false) → lastSignificant before = some '.')
    ⟨fun ⟨h₁, h₂, h₃, h₄, h₅⟩ => ⟨h₁, h₂, h₃, h₄, h₅⟩, fun ⟨h₁, h₂, h₃, h₄, h₅⟩ =>
      ⟨h₁, h₂, h₃, h₄, h₅⟩⟩

/-- Whether all code of a body is as scripts have it. -/
def IsScript (body : List Char) : Prop :=
  ∀ before after, before ++ after = stretches body → IsScriptAt before after

instance (body : List Char) : Decidable (IsScript body) :=
  decidable_of_iff (∀ n ≤ (stretches body).length,
      IsScriptAt ((stretches body).take n) ((stretches body).drop n)) <| by
    refine ⟨fun h before after hcut => ?_, fun h n _ => h _ _ (List.take_append_drop n _)⟩
    have hn := h before.length (by rw [← hcut, List.length_append]; exact Nat.le_add_right _ _)
    rwa [← hcut, List.take_left, List.drop_left] at hn

/-! ## Stretches one by one -/

theorem stretches_cons (c : Char) (cs : List Char) :
    stretches (c :: cs) = (Stretch.read c cs).1 :: stretches (Stretch.read c cs).2 := by
  rw [stretches]

theorem stretches_quoted {mark : Char} (hm : mark = '"' ∨ mark = '`') (cs : List Char) :
    stretches (mark :: cs) =
      .quoted (mark :: (quotedSpan mark cs).1) :: stretches (quotedSpan mark cs).2 := by
  rw [stretches_cons, Stretch.read, if_pos hm]

theorem stretches_line (cs : List Char) :
    stretches ('/' :: '/' :: cs) =
      .comment ('/' :: '/' :: (lineSpan cs).1) :: stretches (lineSpan cs).2 := by
  rw [stretches_cons]
  simp [Stretch.read, lineSpan]

theorem stretches_block (cs : List Char) :
    stretches ('/' :: '*' :: cs) =
      .comment ('/' :: '*' :: (blockSpan cs).1) :: stretches (blockSpan cs).2 := by
  rw [stretches_cons]
  simp [Stretch.read]

theorem stretches_code {c : Char} {cs : List Char} (hm : ¬ (c = '"' ∨ c = '`'))
    (hcomment : c = '/' → cs.head? ≠ some '/' ∧ cs.head? ≠ some '*') :
    stretches (c :: cs) = .code c :: stretches cs := by
  have hline : ¬ (c = '/' ∧ cs.head? = some '/') := fun h => (hcomment h.1).1 h.2
  have hblock : ¬ (c = '/' ∧ cs.head? = some '*') := fun h => (hcomment h.1).2 h.2
  rw [stretches_cons, Stretch.read, if_neg hm, if_neg hline, if_neg hblock]

/-- Characters that begin neither a quoted text nor a comment, whatever follows them. -/
theorem stretches_mark {c : Char} (h : c ∉ ['"', '`', '/']) (cs : List Char) :
    stretches (c :: cs) = .code c :: stretches cs := by
  simp only [List.mem_cons, not_or] at h
  obtain ⟨h₁, h₂, h₃, -⟩ := h
  exact stretches_code (not_or.2 ⟨h₁, h₂⟩) fun hslash => absurd hslash h₃

theorem stretches_word {w : List Char} (h : ∀ c ∈ w, isWordChar c = true) (rest : List Char) :
    stretches (w ++ rest) = w.map .code ++ stretches rest := by
  induction w with
  | nil => rfl
  | cons c w ih =>
    obtain ⟨hc, hw⟩ := List.forall_mem_cons.1 h
    rw [List.cons_append, stretches_mark (not_mem_of_all (by decide) hc), ih hw]
    rfl

theorem Stretch.read_append (c : Char) (cs : List Char) :
    (Stretch.read c cs).1.text ++ (Stretch.read c cs).2 = c :: cs := by
  unfold Stretch.read
  split
  · exact congrArg (c :: ·) (quotedSpan_append c cs)
  split
  · exact congrArg (c :: ·) (lineSpan_append cs)
  split
  · rename_i hstar
    obtain ⟨rfl, hnext⟩ := hstar
    obtain ⟨ds, rfl⟩ := List.head?_eq_some_iff.1 hnext
    exact congrArg ('/' :: '*' :: ·) (blockSpan_append ds)
  · rfl

/-- No character of a body is lost. -/
theorem flatMap_text_stretches (cs : List Char) : (stretches cs).flatMap Stretch.text = cs := by
  fun_induction stretches cs with
  | case1 => rfl
  | case2 c cs ih => rw [List.flatMap_cons, ih, Stretch.read_append]

/-! ## Positions in a body -/

theorem lastSignificant_concat (before : List Stretch) (s : Stretch) :
    lastSignificant (before ++ [s]) = s.significant?.or (lastSignificant before) := by
  rw [lastSignificant, List.reverse_append, List.reverse_singleton, List.singleton_append,
    List.findSome?_cons]
  cases s.significant? <;> rfl

theorem endsInWord_concat (before : List Stretch) (s : Stretch) :
    endsInWord (before ++ [s]) = (s.isWordChar && (s.isWordStart || endsInWord before)) := by
  rw [endsInWord, List.reverse_append, List.reverse_singleton, List.singleton_append,
    List.takeWhile_cons]
  cases s.isWordChar <;> rfl

theorem endsInWord_of_not_isWordChar {before : List Stretch} {s : Stretch}
    (h : s.isWordChar = false) : endsInWord (before ++ [s]) = false := by
  rw [endsInWord_concat, h, Bool.false_and]

variable {body cs left : List Char} {before : List Stretch} {s : Spelled}

theorem IsScript.at (h : IsScript body) (hat : stretches body = before ++ stretches cs) :
    IsScriptAt before (stretches cs) :=
  h before (stretches cs) hat.symm

theorem not_isWordChar_head?_stretches (h : ∀ c ∈ cs.head?, isWordChar c = false) :
    ∀ next ∈ (stretches cs).head?, next.isWordChar = false := by
  cases cs with
  | nil => rw [stretches]; exact nofun
  | cons c cs =>
    rw [stretches_cons, List.head?_cons]
    rintro next ⟨⟩
    unfold Stretch.read
    split
    · rfl
    split
    · rfl
    split
    · rfl
    · exact h c rfl

/-! ## The respelling -/

theorem lastSignificant_word {w : List Char} (h : ∀ c ∈ w, isWordChar c = true) (hne : w ≠ []) :
    lastSignificant (before ++ w.map .code) = some (w.getLast?.getD ' ') := by
  obtain ⟨w, c, rfl⟩ := (List.eq_nil_or_concat' w).resolve_left hne
  have hblank : Text.isBlank c = false := isBlank_of_isWordChar (h c (by simp))
  rw [List.map_append, ← List.append_assoc, List.map_singleton, lastSignificant_concat]
  simp [Stretch.significant?, hblank]

theorem scriptWord_eq_self {w : List Char} (h : w ∉ respelledWords) : Spelled.scriptWord w = w := by
  simp only [respelledWords, List.mem_cons, List.not_mem_nil, or_false, not_or] at h
  obtain ⟨hnull, hundefined, hvar⟩ := h
  rw [Spelled.scriptWord, if_neg (not_or.2 ⟨hnull, hundefined⟩), if_neg hvar]

/-- Whether a respelling that has come to a position knows of it what it has to. -/
structure Spelled.StandsAt (s : Spelled) (before : List Stretch) (cs : List Char) : Prop where
  /-- It knows the last character that counts. -/
  previous : s.previous = lastSignificant before
  /-- The position is not inside of a word. -/
  fresh : endsInWord before = false ∨ ∀ next ∈ (stretches cs).head?, next.isWordChar = false

/-- Whether a respelling that has come to a position writes the piece there as it stands. -/
def Spelled.Copies (s : Spelled) (before : List Stretch) (cs : List Char) (p : Piece)
    (left : List Char) : Prop :=
  ∃ more, stretches cs = more ++ stretches left ∧ (s.write p).text ++ left = s.text ++ cs ∧
    (s.write p).StandsAt (before ++ more) left

namespace Spelled

theorem copies_quoted {mark : Char} (hm : mark = '"' ∨ mark = '`') :
    s.Copies before (mark :: cs) (.quoted mark (mark :: (quotedSpan mark cs).1))
      (quotedSpan mark cs).2 := by
  refine ⟨[_], stretches_quoted hm cs, ?_, ?_, .inl (endsInWord_of_not_isWordChar rfl)⟩
  · rw [write, text_settle, List.append_assoc, List.cons_append, quotedSpan_append]
  · rw [lastSignificant_concat]
    rfl

theorem StandsAt.copies_comment {text : List Char} (h : s.StandsAt before (text ++ left))
    (hstretches : stretches (text ++ left) = .comment text :: stretches left) :
    s.Copies before (text ++ left) (.comment text) left := by
  refine ⟨[_], hstretches, ?_, ?_, .inl (endsInWord_of_not_isWordChar rfl)⟩
  · rw [write, text_loosen, List.append_assoc]
  · rw [lastSignificant_concat]
    exact h.previous

theorem StandsAt.copies_other {c : Char} (h : s.StandsAt before (c :: left))
    (hother : Piece.IsOther c left) : s.Copies before (c :: left) (.other c) left := by
  have hstretches : stretches (c :: left) = .code c :: stretches left :=
    stretches_code (fun hc => hc.elim hother.quote.1 hother.quote.2.1) hother.comment
  refine ⟨[_], hstretches, ?_, ?_, .inl ?_⟩
  · rw [text_write_other, List.append_assoc]
    rfl
  · rw [lastSignificant_concat, write, Stretch.significant?]
    split
    · exact h.previous
    · rfl
  · have hstart : Stretch.isWordStart (.code c) = false := hother.word
    rw [endsInWord_concat, hstart, Bool.false_or, Bool.and_eq_false_iff]
    refine h.fresh.symm.imp_left fun hnext => hnext _ ?_
    rw [hstretches]
    rfl

/-- A word is written as it stands: one that would be respelled comes after a dot. -/
theorem StandsAt.copies_word {c : Char} (hscript : IsScriptAt before (stretches (c :: cs)))
    (h : s.StandsAt before (c :: cs)) (hc : isWordStart c = true) :
    s.Copies before (c :: cs) (.word (c :: (wordSpan cs).1)) (wordSpan cs).2 := by
  have hword : ∀ d ∈ c :: (wordSpan cs).1, isWordChar d = true :=
    List.forall_mem_cons.2 ⟨isWordChar_of_isWordStart hc, fun d => List.mem_takeWhile_imp⟩
  have hcut : (c :: (wordSpan cs).1) ++ (wordSpan cs).2 = c :: cs :=
    congrArg (c :: ·) (wordSpan_append cs)
  have hstretches := stretches_word hword (wordSpan cs).2
  have hnext := not_isWordChar_head?_stretches (not_isWordChar_head?_wordSpan cs)
  rw [hcut] at hstretches
  have hfresh : endsInWord before = false := h.fresh.resolve_right fun hhead => by
    have hc' := hhead (.code c) (by rw [hstretches]; rfl)
    exact absurd (hword c List.mem_cons_self) (by simpa [Stretch.isWordChar] using hc')
  have hdot : c :: (wordSpan cs).1 ∈ respelledWords → s.previous = some '.' := by
    intro hw
    rw [h.previous]
    refine hscript.word _ hw ⟨_, hstretches.symm⟩ hfresh fun next hmem => hnext next ?_
    rwa [hstretches, ← List.length_map (f := Stretch.code), List.getElem?_append_right (le_refl _),
      Nat.sub_self, ← List.head?_eq_getElem?] at hmem
  have hspelling : (if s.previous = some '.' then c :: (wordSpan cs).1
      else scriptWord (c :: (wordSpan cs).1)) = c :: (wordSpan cs).1 := by
    split
    · rfl
    · rename_i hne
      exact scriptWord_eq_self fun hw => hne (hdot hw)
  refine ⟨(c :: (wordSpan cs).1).map .code, hstretches, ?_, ?_, .inr hnext⟩
  · rw [write, hspelling, text_settle, List.append_assoc, hcut]
  · rw [write, lastSignificant_word hword (List.cons_ne_nil _ _)]
    rfl

theorem StandsAt.copies {p : Piece} (hscript : IsScriptAt before (stretches cs))
    (h : s.StandsAt before cs) (hcuts : Piece.Cuts cs p left) : s.Copies before cs p left := by
  cases hcuts with
  | quoted cs hm => exact copies_quoted hm
  | requoted cs =>
    rw [stretches_mark (by decide)] at hscript
    exact absurd rfl hscript.quote
  | line cs =>
    have htext : '/' :: '/' :: cs = ('/' :: '/' :: (lineSpan cs).1) ++ (lineSpan cs).2 :=
      congrArg ('/' :: '/' :: ·) (lineSpan_append cs).symm
    rw [htext] at h ⊢
    exact h.copies_comment (htext ▸ stretches_line cs)
  | block cs =>
    have htext : '/' :: '*' :: cs = ('/' :: '*' :: (blockSpan cs).1) ++ (blockSpan cs).2 :=
      congrArg ('/' :: '*' :: ·) (blockSpan_append cs).symm
    rw [htext] at h ⊢
    exact h.copies_comment (htext ▸ stretches_block cs)
  | @strictOperator c _ hc =>
    have hmark : c ∉ ['"', '`', '/'] := by rcases hc with rfl | rfl <;> decide
    have hoperator : [c, '=', '='] ∈ ["===".toList, "!==".toList] := by
      rcases hc with rfl | rfl <;> decide
    have hstretches : stretches (c :: '=' :: '=' :: left) =
        [c, '=', '='].map .code ++ stretches left := by
      rw [stretches_mark hmark, stretches_mark (by decide), stretches_mark (by decide)]
      rfl
    exact absurd ⟨_, hstretches.symm⟩ (hscript.strict _ hoperator)
  | word cs hc => exact h.copies_word hscript hc
  | lineBreak cs =>
    rw [stretches_mark (by decide)] at hscript
    exact absurd rfl hscript.lineBreak
  | other hother => exact h.copies_other hother

end Spelled

/-- The respelling writes the rest of a body as it stands if the code is as scripts have it. -/
theorem IsScript.text_foldl_write (h : IsScript body)
    (hat : stretches body = before ++ stretches cs) (hs : s.StandsAt before cs) :
    ((pieces cs).foldl Spelled.write s).text = s.text ++ cs := by
  fun_induction pieces cs generalizing before s with
  | case1 => exact (List.append_nil _).symm
  | case2 c cs ih =>
    obtain ⟨more, hmore, htext, hs'⟩ := hs.copies (h.at hat) (Piece.cuts_read c cs)
    rw [List.foldl_cons, ih (by rw [hat, hmore, List.append_assoc]) hs', htext]

theorem IsScript.respell_eq (h : IsScript body) : respell body = body :=
  h.text_foldl_write (List.nil_append _).symm ⟨rfl, .inl rfl⟩

/-! ## Conditionals -/

theorem exists_stretches_trivia (cs : List Char) :
    ∃ more, stretches cs = more ++ stretches (triviaSpan cs).2 := by
  fun_induction triviaSpan cs with
  | case1 => exact ⟨[], rfl⟩
  | case2 cs cut text left hspan ih =>
    obtain ⟨more, hmore⟩ := ih
    rw [hspan] at hmore
    exact ⟨_ :: more, (stretches_line cs).trans (congrArg (_ :: ·) hmore)⟩
  | case3 cs cut text left hspan ih =>
    obtain ⟨more, hmore⟩ := ih
    rw [hspan] at hmore
    exact ⟨_ :: more, (stretches_block cs).trans (congrArg (_ :: ·) hmore)⟩
  | case4 c cs _ _ hb text left hspan ih =>
    obtain ⟨more, hmore⟩ := ih
    rw [hspan] at hmore
    have hmark : c ∉ ['"', '`', '/'] := not_mem_of_all (by decide) hb
    exact ⟨.code c :: more, (stretches_mark hmark cs).trans (congrArg (_ :: ·) hmore)⟩
  | case5 => exact ⟨[], rfl⟩

theorem stretches_of_not_beginsTrivia {c : Char} (ht : ¬ BeginsTrivia c cs)
    (hm : ¬ (c = '"' ∨ c = '`')) : stretches (c :: cs) = .code c :: stretches cs :=
  stretches_code hm fun hc => ⟨fun hnext => ht (.inr ⟨hc, .inl hnext⟩),
    fun hnext => ht (.inr ⟨hc, .inr hnext⟩)⟩

/-- Tokens are cut off where stretches are. -/
theorem exists_stretches_read (c : Char) (cs : List Char) :
    ∃ more, stretches (c :: cs) = more ++ stretches (Token.read c cs).2 ∧
      more.flatMap Stretch.text = (Token.read c cs).1.text := by
  have hcut : ∃ more, stretches (c :: cs) = more ++ stretches (Token.read c cs).2 := by
    by_cases ht : BeginsTrivia c cs
    · rw [Token.read_trivia ht]
      exact exists_stretches_trivia (c :: cs)
    by_cases hm : c = '"' ∨ c = '`'
    · rw [Token.read_quoted hm]
      exact ⟨[_], stretches_quoted hm cs⟩
    by_cases hw : isWordChar c = true
    · rw [Token.read_word hw]
      have hword : ∀ d ∈ c :: (wordSpan cs).1, isWordChar d = true :=
        List.forall_mem_cons.2 ⟨hw, fun d => List.mem_takeWhile_imp⟩
      have hstretches := stretches_word hword (wordSpan cs).2
      rw [List.cons_append, wordSpan_append] at hstretches
      exact ⟨_, hstretches⟩
    · rw [Token.read_mark ht hm (by simpa using hw)]
      exact ⟨[_], stretches_of_not_beginsTrivia ht hm⟩
  obtain ⟨more, hmore⟩ := hcut
  refine ⟨more, hmore, ?_⟩
  have htext := congrArg (List.flatMap Stretch.text) hmore
  rw [List.flatMap_append, flatMap_text_stretches, flatMap_text_stretches,
    ← Token.read_append c cs] at htext
  exact (List.append_cancel_right htext).symm

theorem firstChar?_tokens (cs : List Char) : firstChar? (tokens cs) = cs.head? := by
  cases cs with
  | nil => rw [tokens_nil]; rfl
  | cons c cs => rw [tokens_cons]; exact Token.head?_read c cs

theorem head?_of_head?_stretches {c : Char} (h : (stretches cs).head? = some (.code c)) :
    cs.head? = some c := by
  have htext := flatMap_text_stretches cs
  obtain ⟨more, hmore⟩ := List.head?_eq_some_iff.1 h
  rw [hmore, List.flatMap_cons] at htext
  rw [← htext]
  rfl

/-- A question mark that is part of an operator is none of a conditional. -/
theorem IsScriptAt.not_isQuestion {c : Char} (h : IsScriptAt before (stretches (c :: cs))) :
    Placed.isQuestion ⟨(before.flatMap Stretch.text).getLast?, (Token.read c cs).1,
      firstChar? (tokens (Token.read c cs).2)⟩ = false := by
  by_cases ht : BeginsTrivia c cs
  · rw [Token.read_trivia ht]
    rfl
  by_cases hm : c = '"' ∨ c = '`'
  · rw [Token.read_quoted hm]
    rfl
  by_cases hw : isWordChar c = true
  · rw [Token.read_word hw]
    rfl
  rw [Token.read_mark ht hm (by simpa using hw), firstChar?_tokens]
  by_cases hc : c = '?'
  · subst hc
    have hstretches := stretches_of_not_beginsTrivia ht hm
    rw [hstretches] at h
    rcases h.question rfl with hleft | ⟨next, hmem, hright⟩
    · obtain ⟨before, rfl⟩ := List.getLast?_eq_some_iff.1 hleft
      simp [Placed.isQuestion, Stretch.text]
    · obtain ⟨d, hd, rfl⟩ := List.mem_map.1 hmem
      have hhead : (stretches cs).head? = some (.code d) := List.head?_eq_getElem?.trans hright
      have hnext := head?_of_head?_stretches hhead
      have hcontains : List.contains [some '?', some '.', some '['] (some d) = true := by
        simpa using hd
      simp only [Placed.isQuestion, hnext, hcontains, Bool.not_true, Bool.and_false]
  · simp [Placed.isQuestion, Placed.isMark, hc]

/-- No token of a body is the question mark of a conditional if the code is as scripts have it. -/
theorem IsScript.not_isQuestion (h : IsScript body)
    (hat : stretches body = before ++ stretches cs) :
    ∀ p ∈ place (before.flatMap Stretch.text).getLast? (tokens cs), p.isQuestion = false := by
  fun_induction tokens cs generalizing before with
  | case1 => exact fun _ hp => absurd hp List.not_mem_nil
  | case2 c cs ih =>
    obtain ⟨more, hmore, htext⟩ := exists_stretches_read c cs
    refine List.forall_mem_cons.2 ⟨(h.at hat).not_isQuestion, ?_⟩
    have hne : (Token.read c cs).1.text ≠ [] := by
      intro hnil
      have hhead := Token.head?_read c cs
      rw [hnil] at hhead
      cases hhead
    rw [hmore, ← List.append_assoc] at hat
    have hrest := ih hat
    rwa [List.flatMap_append, htext, List.getLast?_append_of_ne_nil _ hne] at hrest

theorem IsScript.eraseConditionals_eq (h : IsScript body) : eraseConditionals body = body := by
  have hquestion : ∀ p ∈ place none (tokens body), p.isQuestion = false :=
    h.not_isQuestion (List.nil_append _).symm
  have hparts : parts? (place none (tokens body)) = none := by
    rw [parts?, splitQuestion?_eq_none hquestion]
    rfl
  exact eraseAtMost_of_eq_none (by rw [eraseLast?, hparts, Option.map_none]) _

/-- A body is left alone if all code of it is as scripts have it, whatever stands in its quoted
texts and comments. -/
theorem normalize_eq_self (h : IsScript body) : normalize body = body := by
  rw [normalize, h.respell_eq, h.eraseConditionals_eq]

/-- Words, operators and line breaks in quoted texts and comments, property names, question marks
of other kinds, longer words that hold respelled ones, and a quote in a comment. -/
theorem normalize_eq_self_opaque :
    let body := ("a?.var ?? nulls == `x ? 1 :\nnull` /* '===' \n */ + m. /* . */ null + m1null + " ++
      "\"\\\"var\" // var ? '").toList
    IsScript body ∧ normalize body = body := by
  intro body
  have hscript : IsScript body := by decide +kernel
  exact ⟨hscript, normalize_eq_self hscript⟩

end NavigationBar.Template
