import NavigationBar.Proofs.Template.Bounds
import NavigationBar.Proofs.Template.Rereading

/-!
# Where the tokens of a text stand

The tokens of a text can be found by positions alone: loops run over the text until they come to the
end of a quotation, a comment, a line or a word, each of them in its own way when the text ends
first. Every loop stops where the span of its kind is cut off, so these positions are those of the
tokens: they tile the text.
-/

namespace NavigationBar.Template

/-! ## Loops over positions -/

/-- The first position from `i` on whose character is none of some kind. -/
def whileEnd (p : Char → Bool) (cs : List Char) (i : Nat) : Nat :=
  if h : i < cs.length then
    if p cs[i] then whileEnd p cs (i + 1) else i
  else i
termination_by cs.length - i

/-- The position behind a quotation, from a position within it. A backslash takes the next character
with it, if there is one. -/
def quotedEnd (mark : Char) (cs : List Char) (i : Nat) : Nat :=
  if h : i < cs.length then
    if cs[i] = '\\' then quotedEnd mark cs (min (i + 2) cs.length)
    else if cs[i] = mark then i + 1
    else quotedEnd mark cs (i + 1)
  else i
termination_by cs.length - i

/-- The position behind a comment that ends with `*/`, from a position within it. -/
def blockEnd (cs : List Char) (i : Nat) : Nat :=
  if h : i < cs.length then
    if cs[i] = '*' ∧ cs[i + 1]? = some '/' then i + 2 else blockEnd cs (i + 1)
  else cs.length
termination_by cs.length - i

variable {cs : List Char} {i : Nat}

theorem drop_of_append {text left : List Char} (h : text ++ left = cs.drop i) :
    cs.drop (i + text.length) = left := by
  rw [← List.drop_drop, ← h, List.drop_left]

theorem whileEnd_eq (p : Char → Bool) (cs : List Char) (i : Nat) :
    whileEnd p cs i = i + ((cs.drop i).takeWhile p).length := by
  fun_induction whileEnd p cs i with
  | case1 i h hp ih =>
    rw [List.drop_eq_getElem_cons h, List.takeWhile_cons_of_pos hp, List.length_cons, ih]
    omega
  | case2 i h hp =>
    rw [List.drop_eq_getElem_cons h, List.takeWhile_cons_of_neg hp]
    rfl
  | case3 i h =>
    rw [List.drop_eq_nil_of_le (by omega)]
    rfl

theorem quotedEnd_eq (mark : Char) (cs : List Char) (i : Nat) :
    quotedEnd mark cs i = i + (quotedSpan mark (cs.drop i)).1.length := by
  fun_induction quotedEnd mark cs i with
  | case1 i h hescape ih =>
    rw [List.drop_eq_getElem_cons h, hescape]
    by_cases hnext : i + 1 < cs.length
    · have hmin : min (i + 2) cs.length = i + 2 := by omega
      have hdrop : cs.drop (i + 1) = cs[i + 1] :: cs.drop (i + 2) :=
        List.drop_eq_getElem_cons hnext
      rw [hmin] at ih ⊢
      rw [hdrop, quotedSpan, ih]
      simp only [List.length_cons]
      omega
    · -- The backslash is the last character, and a quotation of its own.
      have hmin : min (i + 2) cs.length = cs.length := by omega
      rw [hmin, List.drop_length] at ih
      rw [hmin, ih, List.drop_eq_nil_of_le (by omega)]
      simp only [quotedSpan, List.length_nil, List.length_singleton]
      omega
  | case2 i h hescape hmark =>
    rw [List.drop_eq_getElem_cons h, quotedSpan, if_pos hmark, List.length_singleton]
    · exact fun hc _ => hescape hc
    · exact fun _ _ hc _ => hescape hc
  | case3 i h hescape hmark ih =>
    rw [List.drop_eq_getElem_cons h, quotedSpan_plain hescape hmark, List.length_cons, ih]
    omega
  | case4 i h =>
    rw [List.drop_eq_nil_of_le (by omega)]
    rfl

theorem blockEnd_eq (hi : i ≤ cs.length) :
    blockEnd cs i = i + (blockSpan (cs.drop i)).1.length := by
  fun_induction blockEnd cs i with
  | case1 i h hclose =>
    obtain ⟨hstar, hslash⟩ := hclose
    obtain ⟨hnext, hslash⟩ := List.getElem?_eq_some_iff.mp hslash
    rw [List.drop_eq_getElem_cons h, List.drop_eq_getElem_cons hnext, hstar, hslash, blockSpan]
    rfl
  | case2 i h hclose ih =>
    rw [ih h, List.drop_eq_getElem_cons h, blockSpan, List.length_cons]
    · omega
    · rintro rest hstar hslash
      refine hclose ⟨hstar, ?_⟩
      rw [← List.head?_drop, hslash, List.head?_cons]
  | case3 i h =>
    rw [List.drop_eq_nil_of_le (by omega)]
    exact (Nat.le_antisymm hi (not_lt.mp h)).symm

theorem lt_whileEnd {p : Char → Bool} (h : i < cs.length) (hp : p cs[i] = true) :
    i < whileEnd p cs i := by
  rw [whileEnd_eq, List.drop_eq_getElem_cons h, List.takeWhile_cons_of_pos hp, List.length_cons]
  omega

theorem lt_blockEnd (h : cs[i + 1]? = some '*') : i < blockEnd cs (i + 2) := by
  obtain ⟨hnext, -⟩ := List.getElem?_eq_some_iff.mp h
  rw [blockEnd_eq hnext]
  omega

/-- The position behind blanks and comments, a comment being entered at its first slash. -/
def triviaEnd (cs : List Char) (i : Nat) : Nat :=
  if h : i < cs.length then
    if Text.isBlank cs[i] then triviaEnd cs (i + 1)
    else if hline : cs[i] = '/' ∧ cs[i + 1]? = some '/' then
      triviaEnd cs (whileEnd (· != '\n') cs i)
    else if hblock : cs[i] = '/' ∧ cs[i + 1]? = some '*' then triviaEnd cs (blockEnd cs (i + 2))
    else i
  else i
termination_by cs.length - i
decreasing_by
  · omega
  · have := lt_whileEnd (p := (· != '\n')) h (by rw [hline.1]; decide)
    omega
  · have := lt_blockEnd hblock.2
    omega

/-- A text of which two characters are known. -/
theorem drop_eq_cons_cons {c d : Char} (h : i < cs.length) (hc : cs[i] = c)
    (hd : cs[i + 1]? = some d) : cs.drop i = c :: d :: cs.drop (i + 2) := by
  obtain ⟨hnext, rfl⟩ := List.getElem?_eq_some_iff.mp hd
  rw [List.drop_eq_getElem_cons h, List.drop_eq_getElem_cons hnext, hc]

theorem triviaEnd_eq (cs : List Char) (i : Nat) :
    triviaEnd cs i = i + (triviaSpan (cs.drop i)).1.length := by
  fun_induction triviaEnd cs i with
  | case1 i h hblank ih =>
    rw [List.drop_eq_getElem_cons h, triviaSpan_blank hblank, ih, List.length_cons]
    omega
  | case2 i h hblank hline ih =>
    have hdrop := drop_eq_cons_cons h hline.1 hline.2
    have hend : whileEnd (· != '\n') cs i =
        i + ('/' :: '/' :: (lineSpan (cs.drop (i + 2))).1).length := by
      rw [whileEnd_eq, hdrop]
      rfl
    have hleft : cs.drop (whileEnd (· != '\n') cs i) = (lineSpan (cs.drop (i + 2))).2 := by
      rw [hend]
      apply drop_of_append
      rw [hdrop, List.cons_append, List.cons_append, lineSpan_append]
    rw [ih, hleft, hdrop, triviaSpan_line, hend, List.length_append]
    omega
  | case3 i h hblank hline hblock ih =>
    have hdrop := drop_eq_cons_cons h hblock.1 hblock.2
    have hend : blockEnd cs (i + 2) =
        i + ('/' :: '*' :: (blockSpan (cs.drop (i + 2))).1).length := by
      obtain ⟨hnext, -⟩ := List.getElem?_eq_some_iff.mp hblock.2
      have hle : i + 2 ≤ cs.length := hnext
      rw [blockEnd_eq hle, List.length_cons, List.length_cons]
      omega
    have hleft : cs.drop (blockEnd cs (i + 2)) = (blockSpan (cs.drop (i + 2))).2 := by
      rw [hend]
      apply drop_of_append
      rw [hdrop, List.cons_append, List.cons_append, blockSpan_append]
    rw [ih, hleft, hdrop, triviaSpan_block, hend, List.length_append]
    omega
  | case4 i h hblank hline hblock =>
    have hbegins : ¬ BeginsTrivia cs[i] (cs.drop (i + 1)) := by
      rw [BeginsTrivia, List.head?_drop]
      tauto
    rw [List.drop_eq_getElem_cons h, triviaSpan_eq_nil_iff.mpr hbegins]
    rfl
  | case5 i h =>
    rw [List.drop_eq_nil_of_le (by omega), triviaSpan]
    rfl

/-! ## Tokens by their positions -/

/-- A token by its kind and the positions where it begins and ends. -/
structure Extent where
  /-- What the token is. -/
  kind : TokenKind
  /-- Where it begins. -/
  start : Nat
  /-- Where it ends. -/
  stop : Nat
deriving DecidableEq, Repr

/-- The token that begins at the position `i`, where the character `c` stands. -/
def extentAt (cs : List Char) (i : Nat) (c : Char) : Extent :=
  if Text.isBlank c ∨ (c = '/' ∧ (cs[i + 1]? = some '/' ∨ cs[i + 1]? = some '*')) then
    ⟨.trivia, i, max (triviaEnd cs i) (i + 1)⟩
  else if c = '"' ∨ c = '`' then ⟨.quoted, i, quotedEnd c cs (i + 1)⟩
  else if isWordChar c then ⟨.word, i, whileEnd isWordChar cs i⟩
  else ⟨.mark c, i, i + 1⟩

/-- The extent of a token that begins at a position. -/
def Token.extent (t : Token) (i : Nat) : Extent :=
  ⟨t.kind, i, i + t.text.length⟩

theorem extentAt_eq (h : i < cs.length) :
    extentAt cs i cs[i] = (Token.read cs[i] (cs.drop (i + 1))).1.extent i := by
  have hdrop : cs.drop i = cs[i] :: cs.drop (i + 1) := List.drop_eq_getElem_cons h
  rw [extentAt, ← List.head?_drop]
  split_ifs with ht hm hw
  · have hlt : (triviaSpan (cs[i] :: cs.drop (i + 1))).2.length < _ := triviaSpan_length_lt ht
    have happend := congrArg List.length (triviaSpan_append (cs[i] :: cs.drop (i + 1)))
    rw [List.length_append] at happend
    rw [Token.read_trivia ht, triviaEnd_eq, hdrop, Nat.max_eq_left (by omega)]
    rfl
  · rw [Token.read_quoted hm, quotedEnd_eq, Token.extent, List.length_cons, Nat.add_assoc,
      Nat.add_comm 1]
  · rw [Token.read_word hw, whileEnd_eq, hdrop, List.takeWhile_cons_of_pos hw]
    rfl
  · rw [Token.read_mark ht hm (by simpa using hw)]
    rfl

/-- A token begins where it was looked for, covers something and stays within the text. -/
theorem extentAt_bounds (h : i < cs.length) :
    (extentAt cs i cs[i]).start = i ∧ i < (extentAt cs i cs[i]).stop ∧
      (extentAt cs i cs[i]).stop ≤ cs.length := by
  have happend := congrArg List.length (Token.read_append cs[i] (cs.drop (i + 1)))
  have hlt := Token.read_length cs[i] (cs.drop (i + 1))
  rw [List.length_append] at happend
  rw [List.length_cons, List.length_drop] at happend hlt
  rw [extentAt_eq h]
  refine ⟨rfl, ?_, ?_⟩
  · change i < i + _
    omega
  · change i + _ ≤ _
    omega

/-- The tokens from a position on, each found where the one before it ends. -/
def lexFrom (cs : List Char) (i : Nat) : List Extent :=
  if h : i < cs.length then
    extentAt cs i cs[i] :: lexFrom cs (extentAt cs i cs[i]).stop
  else []
termination_by cs.length - i
decreasing_by
  have := (extentAt_bounds h).2.1
  omega

/-- The tokens of a text, by their positions. -/
def lex (cs : List Char) : List Extent :=
  lexFrom cs 0

/-- Tokens cover a text of some length from a position on: each covers something, begins where the
one before it ends, and the last one ends with the text. -/
inductive Tiles (length : Nat) : Nat → List Extent → Prop where
  /-- Nothing is left to cover. -/
  | done : Tiles length length []
  /-- One token, and others behind it. -/
  | next {e : Extent} {es : List Extent} (covers : e.start < e.stop)
    (rest : Tiles length e.stop es) : Tiles length e.start (e :: es)

theorem tiles_lexFrom (hi : i ≤ cs.length) : Tiles cs.length i (lexFrom cs i) := by
  fun_induction lexFrom cs i with
  | case1 i h ih =>
    obtain ⟨hstart, hlt, hle⟩ := extentAt_bounds h
    have hrest := Tiles.next (hstart.symm ▸ hlt) (ih hle)
    rwa [hstart] at hrest
  | case2 i h =>
    obtain rfl : i = cs.length := by omega
    exact .done

/-- What follows a token are the tokens from its end on. -/
theorem lexFrom_of_append {before after : List Extent} {e : Extent}
    (h : lexFrom cs i = before ++ e :: after) : lexFrom cs e.stop = after := by
  induction before generalizing i with
  | nil =>
    rw [lexFrom] at h
    split at h
    · obtain ⟨rfl, rfl⟩ := List.cons.inj h
      rfl
    · cases h
  | cons b before ih =>
    rw [lexFrom] at h
    split at h
    · exact ih (List.cons.inj h).2
    · cases h

/-! ## The same tokens -/

/-- The extents of tokens that stand one behind the other. -/
def extents (i : Nat) : List Token → List Extent
  | [] => []
  | t :: ts => t.extent i :: extents (i + t.text.length) ts

/-- The tokens by their positions are the tokens of the text. -/
theorem lexFrom_eq_extents (cs : List Char) (i : Nat) :
    lexFrom cs i = extents i (tokens (cs.drop i)) := by
  fun_induction lexFrom cs i with
  | case1 i h ih =>
    have hdrop : cs.drop i = cs[i] :: cs.drop (i + 1) := List.drop_eq_getElem_cons h
    rw [extentAt_eq h] at ih ⊢
    rw [hdrop, tokens_cons, extents, ih]
    congr 3
    apply drop_of_append
    rw [hdrop, Token.read_append]
  | case2 i h =>
    rw [List.drop_eq_nil_of_le (by omega), tokens_nil]
    rfl

/-- A token of a text with something else in front. -/
def Extent.shift (n : Nat) (e : Extent) : Extent :=
  { e with start := n + e.start, stop := n + e.stop }

theorem map_shift_extents (n i : Nat) (ts : List Token) :
    (extents i ts).map (Extent.shift n) = extents (n + i) ts := by
  induction ts generalizing i with
  | nil => rfl
  | cons t ts ih =>
    rw [extents, List.map_cons, ih, extents]
    simp only [Extent.shift, Token.extent, Nat.add_assoc]

theorem lexFrom_drop (cs : List Char) (i : Nat) :
    (lex (cs.drop i)).map (Extent.shift i) = lexFrom cs i := by
  rw [lex, lexFrom_eq_extents, map_shift_extents, lexFrom_eq_extents, List.drop_zero, Nat.add_zero]

theorem slices_extents (front : List Char) (ts : List Token) :
    (extents front.length ts).map (fun e => (e.kind, slice? (front ++ source ts) e.start e.stop)) =
      ts.map fun t => (t.kind, some t.text) := by
  induction ts generalizing front with
  | nil => rfl
  | cons t ts ih =>
    have hslice : slice? (front ++ source (t :: ts)) front.length (front.length + t.text.length) =
        some t.text := slice?_eq front t.text (source ts) rfl rfl rfl
    have hrest := ih (front ++ t.text)
    rw [List.length_append, List.append_assoc, ← source_cons] at hrest
    rw [extents, List.map_cons, List.map_cons, hrest]
    exact congrArg (fun s => (t.kind, s) :: _) hslice

/-- The lexer tiles its text. By their positions the tokens of a text begin at its front, each
covers something and begins where the one before it ends, and the last one ends with the text; they
are the tokens that the text is made of. Cut behind any of them, the rest of the text has the later
tokens, moved to its front. -/
theorem lex_tiles (cs : List Char) :
    Tiles cs.length 0 (lex cs) ∧
    (lex cs).map (fun e => (e.kind, slice? cs e.start e.stop)) =
      (tokens cs).map (fun t => (t.kind, some t.text)) ∧
    ∀ before e after, lex cs = before ++ e :: after →
      (lex (cs.drop e.stop)).map (Extent.shift e.stop) = after := by
  refine ⟨tiles_lexFrom (Nat.zero_le _), ?_, fun before e after h => ?_⟩
  · have hslices := slices_extents [] (tokens cs)
    rw [source_tokens] at hslices
    rw [lex, lexFrom_eq_extents]
    exact hslices
  · rw [lexFrom_drop]
    exact lexFrom_of_append h

/-- A quotation whose last character is a backslash extends to the end of its text, and so does a
comment that is opened there. -/
theorem lex_tiles_unclosed :
    let quotation := "x?\"a\\".toList
    let comment := "x /*a*".toList
    lex quotation = [⟨.word, 0, 1⟩, ⟨.mark '?', 1, 2⟩, ⟨.quoted, 2, 5⟩] ∧
    (lex (quotation.drop 2)).map (Extent.shift 2) = [⟨.quoted, 2, 5⟩] ∧
    lex comment = [⟨.word, 0, 1⟩, ⟨.trivia, 1, 6⟩] ∧
    (lex (comment.drop 1)).map (Extent.shift 1) = [⟨.trivia, 1, 6⟩] := by
  intro quotation comment
  have hquotation : lex quotation = [⟨.word, 0, 1⟩, ⟨.mark '?', 1, 2⟩, ⟨.quoted, 2, 5⟩] := by
    decide +kernel
  have hcomment : lex comment = [⟨.word, 0, 1⟩, ⟨.trivia, 1, 6⟩] := by decide +kernel
  obtain ⟨-, -, hquotationCut⟩ := lex_tiles quotation
  obtain ⟨-, -, hcommentCut⟩ := lex_tiles comment
  exact ⟨hquotation, hquotationCut [⟨.word, 0, 1⟩] ⟨.mark '?', 1, 2⟩ _ hquotation, hcomment,
    hcommentCut [] ⟨.word, 0, 1⟩ _ hcomment⟩

end NavigationBar.Template
