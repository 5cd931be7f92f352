import NavigationBar.Proofs.Template.Rereading
import NavigationBar.Template.Spelling

/-!
# Bodies cut into pieces

How a body is cut depends on what comes later in two ways: a quotation, a comment or a word may run
on, and a line break is told apart by the code after it. None of this reaches beyond a closing
brace, so a body is cut before a brace as if nothing came after it.
-/

namespace NavigationBar.Template

/-! ## Pieces one by one -/

namespace Piece

/-- Whether a character is a piece by itself where `cs` follows it, and no line break. -/
structure IsOther (c : Char) (cs : List Char) : Prop where
  /-- It opens no quoted text. -/
  quote : c ≠ '"' ∧ c ≠ '`' ∧ c ≠ '\''
  /-- It begins no comment. -/
  comment : c = '/' → cs.head? ≠ some '/' ∧ cs.head? ≠ some '*'
  /-- It begins no strict operator. -/
  strict : c = '=' ∨ c = '!' → cs.take 2 ≠ ['=', '=']
  /-- It begins no word. -/
  word : isWordStart c = false
  /-- It is no line break. -/
  lineBreak : c ≠ '\n'

/-- How the first piece of a text is cut off: the text, the piece, and what is left. -/
inductive Cuts : List Char → Piece → List Char → Prop where
  /-- A quoted text that stays as it is. -/
  | quoted {mark : Char} (cs : List Char) (hm : mark = '"' ∨ mark = '`') :
    Cuts (mark :: cs) (.quoted mark (mark :: (quotedSpan mark cs).1)) (quotedSpan mark cs).2
  /-- A text in single quotes. -/
  | requoted (cs : List Char) :
    Cuts ('\'' :: cs) (.quoted '"' ('"' :: (requote cs).1 ++ ['"'])) (requote cs).2
  /-- A comment that ends with its line. -/
  | line (cs : List Char) :
    Cuts ('/' :: '/' :: cs) (.comment ('/' :: '/' :: (lineSpan cs).1)) (lineSpan cs).2
  /-- A comment that ends with `*/`. -/
  | block (cs : List Char) :
    Cuts ('/' :: '*' :: cs) (.comment ('/' :: '*' :: (blockSpan cs).1)) (blockSpan cs).2
  /-- A strict operator. -/
  | strictOperator {c : Char} (cs : List Char) (hc : c = '=' ∨ c = '!') :
    Cuts (c :: '=' :: '=' :: cs) (.strictOperator c) cs
  /-- A word. -/
  | word {c : Char} (cs : List Char) (hc : isWordStart c = true) :
    Cuts (c :: cs) (.word (c :: (wordSpan cs).1)) (wordSpan cs).2
  /-- A line break. -/
  | lineBreak (cs : List Char) : Cuts ('\n' :: cs) (.lineBreak (carriesOn cs)) cs
  /-- Any other character. -/
  | other {c : Char} {cs : List Char} (h : IsOther c cs) : Cuts (c :: cs) (.other c) cs

theorem not_mem_of_isWordStart {c : Char} (h : isWordStart c = true) :
    c ∉ ['"', '`', '\'', '/', '=', '!', '\n'] :=
  not_mem_of_all (by decide) h

/-- A piece that can be cut off is the one that is read. -/
theorem Cuts.read_eq {c : Char} {cs left : List Char} {p : Piece} (h : Cuts (c :: cs) p left) :
    Piece.read c cs = (p, left) := by
  cases h with
  | quoted _ hm => exact if_pos hm
  | requoted => rfl
  | line => simp [Piece.read, lineSpan]
  | block => simp [Piece.read]
  | strictOperator _ hc => rcases hc with rfl | rfl <;> simp [Piece.read]
  | word _ hc =>
    have hne := not_mem_of_isWordStart hc
    simp only [List.mem_cons, not_or] at hne
    obtain ⟨h₁, h₂, h₃, h₄, h₅, h₆, -, -⟩ := hne
    simp [Piece.read, h₁, h₂, h₃, h₄, h₅, h₆, hc]
  | lineBreak => simp [Piece.read, show isWordStart '\n' = false by decide]
  | other h =>
    obtain ⟨⟨h₁, h₂, h₃⟩, hcomment, hstrict, hword, hbreak⟩ := h
    have hline : ¬ (c = '/' ∧ cs.head? = some '/') := fun hc => (hcomment hc.1).1 hc.2
    have hblock : ¬ (c = '/' ∧ cs.head? = some '*') := fun hc => (hcomment hc.1).2 hc.2
    have hoperator : ¬ ((c = '=' ∨ c = '!') ∧ cs.take 2 = ['=', '=']) := fun hc =>
      hstrict hc.1 hc.2
    simp only [Piece.read, h₁, h₂, h₃, hline, hblock, hoperator, hword, hbreak, or_self,
      Bool.false_eq_true, if_false]

theorem exists_cuts (c : Char) (cs : List Char) : ∃ p left, Cuts (c :: cs) p left := by
  by_cases hm : c = '"' ∨ c = '`'
  · exact ⟨_, _, .quoted cs hm⟩
  by_cases hquote : c = '\''
  · subst hquote
    exact ⟨_, _, .requoted cs⟩
  by_cases hline : c = '/' ∧ cs.head? = some '/'
  · obtain ⟨rfl, hnext⟩ := hline
    obtain ⟨ds, rfl⟩ := List.head?_eq_some_iff.mp hnext
    exact ⟨_, _, .line ds⟩
  by_cases hblock : c = '/' ∧ cs.head? = some '*'
  · obtain ⟨rfl, hnext⟩ := hblock
    obtain ⟨ds, rfl⟩ := List.head?_eq_some_iff.mp hnext
    exact ⟨_, _, .block ds⟩
  by_cases hstrict : (c = '=' ∨ c = '!') ∧ cs.take 2 = ['=', '=']
  · obtain ⟨hc, hnext⟩ := hstrict
    have hcs : cs = '=' :: '=' :: cs.drop 2 := by
      rw [← List.take_append_drop 2 cs, hnext]
      rfl
    rw [hcs]
    exact ⟨_, _, .strictOperator _ hc⟩
  by_cases hword : isWordStart c = true
  · exact ⟨_, _, .word cs hword⟩
  by_cases hbreak : c = '\n'
  · subst hbreak
    exact ⟨_, _, .lineBreak cs⟩
  · obtain ⟨h₁, h₂⟩ := not_or.mp hm
    exact ⟨_, _, .other ⟨⟨h₁, h₂, hquote⟩,
      fun hc => ⟨fun hnext => hline ⟨hc, hnext⟩, fun hnext => hblock ⟨hc, hnext⟩⟩,
      fun hc hnext => hstrict ⟨hc, hnext⟩, by simpa using hword, hbreak⟩⟩

theorem cuts_read (c : Char) (cs : List Char) :
    Cuts (c :: cs) (Piece.read c cs).1 (Piece.read c cs).2 := by
  obtain ⟨p, left, h⟩ := exists_cuts c cs
  rw [h.read_eq]
  exact h

end Piece

open Piece

@[simp] theorem pieces_nil : pieces [] = [] := by
  rw [pieces]

theorem Piece.Cuts.pieces_eq {cs left : List Char} {p : Piece} (h : Cuts cs p left) :
    pieces cs = p :: pieces left := by
  cases cs with
  | nil => cases h
  | cons c cs => rw [pieces, h.read_eq]

/-! ## Trivia -/

/-- Pieces of trivia that code follows which carries a statement on, or not. -/
inductive Piece.IsLoose (carriesOn : Bool) : Piece → Prop where
  /-- A comment. -/
  | comment (text : List Char) : IsLoose carriesOn (.comment text)
  /-- A blank. -/
  | blank {c : Char} (h : Text.isBlank c = true) : IsLoose carriesOn (.other c)
  /-- A line break. -/
  | lineBreak : IsLoose carriesOn (.lineBreak carriesOn)

/-- Whether code carries a statement on depends on what is after the trivia. -/
theorem carriesOn_triviaSpan (cs : List Char) : carriesOn (triviaSpan cs).2 = carriesOn cs := by
  unfold carriesOn
  rw [triviaSpan_left]

theorem isWordStart_of_isBlank {c : Char} (h : Text.isBlank c = true) : isWordStart c = false := by
  by_contra hstart
  have hword := isWordChar_of_isWordStart (by simpa using hstart)
  rw [isWordChar_of_isBlank h] at hword
  cases hword

theorem isOther_of_isBlank {c : Char} (h : Text.isBlank c = true) (hbreak : c ≠ '\n')
    (cs : List Char) : IsOther c cs := by
  have hne : c ∉ ['"', '`', '\'', '/', '=', '!'] := not_mem_of_all (by decide) h
  simp only [List.mem_cons, not_or] at hne
  obtain ⟨h₁, h₂, h₃, h₄, h₅, h₆, -⟩ := hne
  exact ⟨⟨h₁, h₂, h₃⟩, fun hc => absurd hc h₄, fun hc => absurd hc (not_or.mpr ⟨h₅, h₆⟩),
    isWordStart_of_isBlank h, hbreak⟩

theorem cuts_blank {c : Char} (h : Text.isBlank c = true) (cs : List Char) :
    ∃ p, Cuts (c :: cs) p cs ∧ p.IsLoose (carriesOn cs) := by
  by_cases hbreak : c = '\n'
  · subst hbreak
    exact ⟨_, .lineBreak cs, .lineBreak⟩
  · exact ⟨_, .other (isOther_of_isBlank h hbreak cs), .blank h⟩

theorem lineSpan_of_not_mem {text : List Char} (h : '\n' ∉ text) (rest : List Char) :
    lineSpan (text ++ '\n' :: rest) = (text, '\n' :: rest) := by
  have hline : ∀ c ∈ text, (c != '\n') = true := fun c hc => by
    simpa using ne_of_mem_of_not_mem hc h
  rw [lineSpan, List.takeWhile_append_of_pos hline, List.dropWhile_append_of_pos hline]
  simp

theorem carriesOn_line (cs : List Char) :
    carriesOn ('/' :: '/' :: cs) = carriesOn (lineSpan cs).2 := by
  rw [← carriesOn_triviaSpan, triviaSpan_line, carriesOn_triviaSpan]

theorem carriesOn_block (cs : List Char) :
    carriesOn ('/' :: '*' :: cs) = carriesOn (blockSpan cs).2 := by
  rw [← carriesOn_triviaSpan, triviaSpan_block, carriesOn_triviaSpan]

theorem carriesOn_blank {c : Char} (h : Text.isBlank c = true) (cs : List Char) :
    carriesOn (c :: cs) = carriesOn cs := by
  rw [← carriesOn_triviaSpan, triviaSpan_blank h, carriesOn_triviaSpan]

/-- The trivia in front of a text is cut into pieces of its own. -/
theorem exists_pieces_trivia (cs : List Char) :
    ∃ ps, pieces cs = ps ++ pieces (triviaSpan cs).2 ∧ ∀ p ∈ ps, p.IsLoose (carriesOn cs) := by
  fun_induction triviaSpan cs with
  | case1 => exact ⟨[], rfl, List.forall_mem_nil _⟩
  | case2 cs cut text left hspan ih =>
    obtain ⟨ps, hps, hloose⟩ := ih
    rw [hspan] at hps
    refine ⟨.comment ('/' :: '/' :: (lineSpan cs).1) :: ps, ?_,
      List.forall_mem_cons.mpr ⟨.comment _, ?_⟩⟩
    · rw [(Cuts.line cs).pieces_eq, hps]
      rfl
    · rwa [carriesOn_line]
  | case3 cs cut text left hspan ih =>
    obtain ⟨ps, hps, hloose⟩ := ih
    rw [hspan] at hps
    refine ⟨.comment ('/' :: '*' :: (blockSpan cs).1) :: ps, ?_,
      List.forall_mem_cons.mpr ⟨.comment _, ?_⟩⟩
    · rw [(Cuts.block cs).pieces_eq, hps]
      rfl
    · rwa [carriesOn_block]
  | case4 c cs _ _ hb text left hspan ih =>
    obtain ⟨ps, hps, hloose⟩ := ih
    rw [hspan] at hps
    obtain ⟨p, hp, hp'⟩ := cuts_blank hb cs
    rw [carriesOn_blank hb]
    refine ⟨p :: ps, ?_, List.forall_mem_cons.mpr ⟨hp', hloose⟩⟩
    rw [hp.pieces_eq, hps]
    rfl
  | case5 => exact ⟨[], rfl, List.forall_mem_nil _⟩

/-! ## Bodies that end in a brace -/

/-- Whether a body ends in a closing brace, outside of quoted texts and comments. -/
def EndsInBrace (cs : List Char) : Prop :=
  (pieces cs).getLast? = some (.other '\x7d')

instance (cs : List Char) : Decidable (EndsInBrace cs) :=
  inferInstanceAs (Decidable (_ = _))

theorem requote_suffix (cs : List Char) : (requote cs).2 <:+ cs := by
  fun_induction requote cs with
  | case1 => exact List.suffix_refl []
  | case2 => exact List.nil_suffix
  | case3 cs text left h ih =>
    rw [h] at ih
    exact (ih.trans (List.suffix_cons _ _)).trans (List.suffix_cons _ _)
  | case4 c cs hc text left h ih =>
    rw [h] at ih
    exact (ih.trans (List.suffix_cons _ _)).trans (List.suffix_cons _ _)
  | case5 cs text left h ih =>
    rw [h] at ih
    exact ih.trans (List.suffix_cons _ _)
  | case6 cs => exact List.suffix_cons _ _
  | case7 c cs h₁ h₂ h₃ h₄ h₅ text left h ih =>
    rw [h] at ih
    exact ih.trans (List.suffix_cons _ _)

/-- A piece is cut off in front of what is left. -/
theorem Piece.Cuts.suffix {cs left : List Char} {p : Piece} (h : Cuts cs p left) : left <:+ cs := by
  cases h with
  | @quoted mark cs hm => exact ⟨mark :: (quotedSpan mark cs).1, by simp [quotedSpan_append]⟩
  | requoted cs => exact (requote_suffix cs).trans (List.suffix_cons _ _)
  | line cs => exact ⟨'/' :: '/' :: (lineSpan cs).1, by simp [lineSpan_append]⟩
  | block cs => exact ⟨'/' :: '*' :: (blockSpan cs).1, by simp [blockSpan_append]⟩
  | @strictOperator c => exact ⟨[c, '=', '='], rfl⟩
  | @word c cs => exact ⟨c :: (wordSpan cs).1, by simp [wordSpan_append]⟩
  | lineBreak => exact List.suffix_cons _ _
  | other => exact List.suffix_cons _ _

theorem getLast?_of_suffix {α : Type} {as bs : List α} (h : as <:+ bs) (ha : as ≠ []) :
    bs.getLast? = as.getLast? := by
  obtain ⟨cs, rfl⟩ := h
  exact List.getLast?_append_of_ne_nil _ ha

theorem Piece.Cuts.endsInBrace {cs left : List Char} {p : Piece} (h : Cuts cs p left)
    (hleft : left ≠ []) : EndsInBrace cs ↔ EndsInBrace left := by
  have hne : pieces left ≠ [] := by
    cases left with
    | nil => exact absurd rfl hleft
    | cons d ds =>
      rw [pieces]
      exact List.cons_ne_nil _ _
  rw [EndsInBrace, EndsInBrace, h.pieces_eq, List.getLast?_cons_of_ne_nil hne]

theorem EndsInBrace.getLast? {cs : List Char} (h : EndsInBrace cs) :
    cs.getLast? = some '\x7d' := by
  fun_induction pieces cs with
  | case1 => simp [EndsInBrace] at h
  | case2 c cs ih =>
    have hcuts := cuts_read c cs
    by_cases hleft : (Piece.read c cs).2 = []
    · rw [EndsInBrace, hcuts.pieces_eq, hleft, pieces_nil, List.getLast?_singleton,
        Option.some_inj] at h
      rw [h, hleft] at hcuts
      cases hcuts
      rfl
    · rw [getLast?_of_suffix hcuts.suffix hleft]
      exact ih ((hcuts.endsInBrace hleft).mp h)

/-- No word goes on where a word was cut off. -/
theorem not_isWordChar_head?_wordSpan (cs : List Char) :
    ∀ c ∈ (wordSpan cs).2.head?, isWordChar c = false := by
  intro c hc
  have hnot := List.head?_dropWhile_not isWordChar cs
  rw [show (cs.dropWhile isWordChar).head? = some c from hc] at hnot
  simpa using hnot

/-! What a span leaves of a text it leaves, with more behind it, of a longer text. -/

section Longer

variable {cs : List Char} (rest : List Char)

theorem quotedSpan_append_rest {mark : Char} (h : (quotedSpan mark cs).2 ≠ []) :
    quotedSpan mark (cs ++ rest) = ((quotedSpan mark cs).1, (quotedSpan mark cs).2 ++ rest) := by
  have hspan := quotedSpan_of_left h ((quotedSpan mark cs).2 ++ rest)
  rwa [← List.append_assoc, quotedSpan_append] at hspan

theorem blockSpan_append_rest (h : (blockSpan cs).2 ≠ []) :
    blockSpan (cs ++ rest) = ((blockSpan cs).1, (blockSpan cs).2 ++ rest) := by
  have hspan := blockSpan_of_left h ((blockSpan cs).2 ++ rest)
  rwa [← List.append_assoc, blockSpan_append] at hspan

theorem lineSpan_append_rest (h : (lineSpan cs).2 ≠ []) :
    lineSpan (cs ++ rest) = ((lineSpan cs).1, (lineSpan cs).2 ++ rest) := by
  obtain ⟨left, hleft, hline⟩ := lineSpan_of_left h
  have hspan := hline (left ++ rest)
  rwa [← List.cons_append, ← hleft, ← List.append_assoc, lineSpan_append] at hspan

theorem wordSpan_append_rest (h : (wordSpan cs).2 ≠ []) :
    wordSpan (cs ++ rest) = ((wordSpan cs).1, (wordSpan cs).2 ++ rest) := by
  have hword : ∀ c ∈ (wordSpan cs).1, isWordChar c = true := fun c => List.mem_takeWhile_imp
  have hnext : ∀ c ∈ ((wordSpan cs).2 ++ rest).head?, isWordChar c = false := by
    intro c hc
    rw [List.head?_append_of_ne_nil _ h] at hc
    exact not_isWordChar_head?_wordSpan cs c hc
  have hspan := wordSpan_append_eq hword hnext
  rwa [← List.append_assoc, wordSpan_append] at hspan

theorem requote_append_rest (h : (requote cs).2 ≠ []) :
    requote (cs ++ rest) = ((requote cs).1, (requote cs).2 ++ rest) := by
  fun_induction requote cs with
  | case1 => exact absurd rfl h
  | case2 => exact absurd rfl h
  | case3 cs text left hspan ih =>
    rw [hspan] at ih
    rw [List.cons_append, List.cons_append, requote, ih h]
  | case4 c cs hc text left hspan ih =>
    rw [hspan] at ih
    rw [List.cons_append, List.cons_append, requote, ih h]
    exact hc
  | case5 cs text left hspan ih =>
    rw [hspan] at ih
    rw [List.cons_append, requote, ih h]
  | case6 cs => rw [List.cons_append, requote]
  | case7 c cs h₁ h₂ h₃ h₄ h₅ text left hspan ih =>
    have hc : c ≠ '\\' := by
      rintro rfl
      cases cs with
      | nil => exact h₁ rfl rfl
      | cons d ds => exact h₃ d ds rfl rfl
    rw [hspan] at ih
    rw [List.cons_append, requote, ih h]
    · exact fun hc' _ => hc hc'
    · exact fun _ hc' _ => hc hc'
    · exact fun _ _ hc' _ => hc hc'
    · exact h₄
    · exact h₅

end Longer

/-! What comes after a brace does not matter before it. -/

variable {cs : List Char}

/-- What code that does not begin with trivia has to begin with to carry a statement on. -/
theorem carriesOn_cons {d : Char} {ds : List Char} (h : ¬ BeginsTrivia d ds) :
    carriesOn (d :: ds) =
      if d = '!' then ds.head? == some '='
      else carryingMarks.contains d ||
        (isWordStart d && (wordSpan (d :: ds)).1 == ['e', 'l', 's', 'e']) := by
  unfold carriesOn
  rw [triviaSpan_eq_nil_iff.mpr h]
  by_cases hd : d = '!'
  · subst hd
    rfl
  · rw [if_neg hd]
    split
    · rename_i hnil
      cases hnil
    · rename_i hbang
      exact absurd (List.cons.inj hbang).1 hd
    · rename_i heq
      cases heq
      cases carryingMarks.contains d <;> cases isWordStart d <;> rfl

/-- The only word that carries a statement on is `else`. -/
theorem carriesOn_word {c : Char} {cs tail : List Char} (hstart : isWordStart c = true)
    (hword : ∀ d ∈ cs, isWordChar d = true) (htail : ∀ d ∈ tail.head?, isWordChar d = false) :
    carriesOn (c :: cs ++ tail) = decide (c :: cs = "else".toList) := by
  have hchars : ∀ d ∈ c :: cs, isWordChar d = true :=
    List.forall_mem_cons.mpr ⟨isWordChar_of_isWordStart hstart, hword⟩
  have hnot : c ∉ '!' :: carryingMarks := not_mem_of_all (by decide) hstart
  obtain ⟨hbang, hmark⟩ := not_or.mp (mt List.mem_cons.mpr hnot)
  have hbegins := not_beginsTrivia_of_isWordChar (isWordChar_of_isWordStart hstart) (cs ++ tail)
  rw [List.cons_append, carriesOn_cons hbegins, if_neg hbang, ← List.cons_append,
    wordSpan_append_eq hchars htail, hstart]
  simp [hmark, beq_eq_decide]

/-- Code that begins after trivia and ends in a brace carries a statement on or not, whatever comes
after the brace. -/
theorem carriesOn_append_of_brace {d : Char} {ds : List Char} (hbegins : ¬ BeginsTrivia d ds)
    (hlast : (d :: ds).getLast? = some '\x7d') (rest : List Char) :
    carriesOn (d :: ds ++ rest) = carriesOn (d :: ds) := by
  have hbegins' : ¬ BeginsTrivia d (ds ++ rest) := by
    cases ds with
    | nil =>
      obtain rfl := Option.some.inj hlast
      exact not_beginsTrivia (by decide) (by decide) rest
    | cons e es => exact hbegins
  have hleft : (wordSpan (d :: ds)).2 ≠ [] := by
    intro hnil
    have hword := List.dropWhile_eq_nil_iff.mp hnil _ (List.mem_of_getLast? hlast)
    exact absurd hword (by decide)
  have hword : (wordSpan (d :: (ds ++ rest))).1 = (wordSpan (d :: ds)).1 := by
    rw [← List.cons_append, wordSpan_append_rest rest hleft]
  rw [List.cons_append, carriesOn_cons hbegins', carriesOn_cons hbegins, hword]
  refine ite_congr rfl (fun hd => ?_) fun _ => rfl
  subst hd
  cases ds with
  | nil => exact absurd hlast (by decide)
  | cons e es => rfl

theorem EndsInBrace.carriesOn_append (h : EndsInBrace cs) (rest : List Char) :
    carriesOn (cs ++ rest) = carriesOn cs := by
  obtain ⟨ps, hps, hloose⟩ := exists_pieces_trivia cs
  cases hleft : (triviaSpan cs).2 with
  | nil =>
    -- The brace would be trivia.
    rw [hleft, pieces_nil, List.append_nil] at hps
    rw [EndsInBrace, hps] at h
    have hbrace := hloose _ (List.mem_of_getLast? h)
    cases hbrace with
    | blank hblank => exact absurd hblank (by decide)
  | cons d ds =>
    have hcut : cs = (triviaSpan cs).1 ++ d :: ds := by rw [← hleft, triviaSpan_append]
    have hskip := isSkipped_of_left (by rw [hleft]; exact nofun) (d :: ds ++ rest)
    rw [← List.append_assoc, ← hcut] at hskip
    have hnone := triviaSpan_left cs
    rw [hleft] at hnone
    have hlast := h.getLast?
    rw [hcut, List.getLast?_append_of_ne_nil _ (List.cons_ne_nil d ds)] at hlast
    rw [← carriesOn_triviaSpan, hskip, carriesOn_triviaSpan,
      carriesOn_append_of_brace (triviaSpan_eq_nil_iff.mp hnone) hlast, ← carriesOn_triviaSpan cs,
      hleft]

theorem isOther_append {c : Char} {ds : List Char} (h : IsOther c ds)
    (hlast : (c :: ds).getLast? = some '\x7d') (rest : List Char) : IsOther c (ds ++ rest) := by
  obtain ⟨hquote, hcomment, hstrict, hword, hbreak⟩ := h
  match ds with
  | [] =>
    obtain rfl := Option.some.inj hlast
    exact ⟨hquote, fun hc => absurd hc (by decide), fun hc => absurd hc (by decide), hword, hbreak⟩
  | [d] =>
    obtain rfl := Option.some.inj hlast
    refine ⟨hquote, hcomment, fun _ htake => ?_, hword, hbreak⟩
    exact absurd (List.cons.inj htake).1 (by decide)
  | d :: e :: ds => exact ⟨hquote, hcomment, hstrict, hword, hbreak⟩

/-- What comes before a closing brace is cut as if nothing came after it. -/
theorem EndsInBrace.pieces_append (h : EndsInBrace cs) (rest : List Char) :
    pieces (cs ++ rest) = pieces cs ++ pieces rest := by
  fun_induction pieces cs with
  | case1 => rfl
  | case2 c cs ih =>
    have hcuts := cuts_read c cs
    have hlast := h.getLast?
    generalize Piece.read c cs = r at hcuts ih
    obtain ⟨p, left⟩ := r
    dsimp only at hcuts ih
    suffices hlonger : Cuts (c :: cs ++ rest) p (left ++ rest) by
      rw [hlonger.pieces_eq]
      by_cases hleft : left = []
      · rw [hleft, pieces_nil]
        rfl
      · rw [ih ((hcuts.endsInBrace hleft).mp h)]
        rfl
    by_cases hleft : left = []
    · rw [EndsInBrace, hcuts.pieces_eq, hleft, pieces_nil, List.getLast?_singleton,
        Option.some_inj] at h
      subst h hleft
      cases hcuts with
      | other hother => exact .other (isOther_append hother hlast rest)
    cases hcuts with
    | quoted cs hm =>
      have hlonger := Cuts.quoted (cs ++ rest) hm
      rwa [quotedSpan_append_rest rest hleft] at hlonger
    | requoted cs =>
      have hlonger := Cuts.requoted (cs ++ rest)
      rwa [requote_append_rest rest hleft] at hlonger
    | line cs =>
      have hlonger := Cuts.line (cs ++ rest)
      rwa [lineSpan_append_rest rest hleft] at hlonger
    | block cs =>
      have hlonger := Cuts.block (cs ++ rest)
      rwa [blockSpan_append_rest rest hleft] at hlonger
    | strictOperator cs hc => exact .strictOperator (left ++ rest) hc
    | word cs hc =>
      have hlonger := Cuts.word (cs ++ rest) hc
      rwa [wordSpan_append_rest rest hleft] at hlonger
    | lineBreak =>
      have hlonger := Cuts.lineBreak (cs ++ rest)
      have hends : EndsInBrace cs := ((Cuts.lineBreak cs).endsInBrace hleft).mp h
      rwa [hends.carriesOn_append] at hlonger
    | other hother => exact .other (isOther_append hother hlast rest)

end NavigationBar.Template
