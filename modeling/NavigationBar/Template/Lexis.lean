import NavigationBar.Text.Blank
import NavigationBar.Text.Letter

/-!
# The lexical shapes of a body

Words, quoted texts, comments and trivia, each cut off from the front of a text as a pair of what
belongs to it and what is left. An unterminated quotation or comment extends to the end of the text.
-/

namespace NavigationBar.Template

/-- Whether a character can begin a word. -/
def isWordStart (c : Char) : Bool :=
  Text.isLetter c || c == '_' || c == '$'

/-- Whether a character can stand in a word. -/
def isWordChar (c : Char) : Bool :=
  Text.isLetterOrNumber c || c == '_' || c == '$'

theorem isWordChar_of_isWordStart {c : Char} (h : isWordStart c = true) : isWordChar c = true := by
  simp only [isWordStart, isWordChar, Bool.or_eq_true] at h ⊢
  rcases h with (h | h) | h
  · exact Or.inl (Or.inl (Text.isLetterOrNumber_of_isLetter h))
  · exact Or.inl (Or.inr h)
  · exact Or.inr h

/-- Cuts off a quoted text whose opening mark has been read, up to its first mark that no backslash
precedes. -/
def quotedSpan (mark : Char) : List Char → List Char × List Char
  | [] => ([], [])
  | ['\\'] => (['\\'], [])
  | '\\' :: c :: rest =>
    let (text, left) := quotedSpan mark rest
    ('\\' :: c :: text, left)
  | c :: rest =>
    if c = mark then ([c], rest)
    else
      let (text, left) := quotedSpan mark rest
      (c :: text, left)

/-- Cuts off a comment whose opening `/*` has been read, up to its first `*/`. -/
def blockSpan : List Char → List Char × List Char
  | [] => ([], [])
  | '*' :: '/' :: rest => (['*', '/'], rest)
  | c :: rest =>
    let (text, left) := blockSpan rest
    (c :: text, left)

/-- Cuts off a comment up to the end of its line. -/
def lineSpan (cs : List Char) : List Char × List Char :=
  (cs.takeWhile (· != '\n'), cs.dropWhile (· != '\n'))

/-- Cuts off the word characters in front. -/
def wordSpan (cs : List Char) : List Char × List Char :=
  (cs.takeWhile isWordChar, cs.dropWhile isWordChar)

/-! Every span is a cut: its two parts put together are the text. -/

theorem quotedSpan_append (mark : Char) (cs : List Char) :
    (quotedSpan mark cs).1 ++ (quotedSpan mark cs).2 = cs := by
  fun_induction quotedSpan mark cs <;> simp_all

theorem blockSpan_append (cs : List Char) : (blockSpan cs).1 ++ (blockSpan cs).2 = cs := by
  fun_induction blockSpan cs <;> simp_all

theorem lineSpan_append (cs : List Char) : (lineSpan cs).1 ++ (lineSpan cs).2 = cs := by
  simp [lineSpan]

theorem wordSpan_append (cs : List Char) : (wordSpan cs).1 ++ (wordSpan cs).2 = cs := by
  simp [wordSpan]

theorem quotedSpan_length (mark : Char) (cs : List Char) :
    (quotedSpan mark cs).2.length ≤ cs.length := by
  have h := congrArg List.length (quotedSpan_append mark cs)
  simp only [List.length_append] at h
  omega

theorem blockSpan_length (cs : List Char) : (blockSpan cs).2.length ≤ cs.length := by
  have h := congrArg List.length (blockSpan_append cs)
  simp only [List.length_append] at h
  omega

theorem lineSpan_length (cs : List Char) : (lineSpan cs).2.length ≤ cs.length := by
  have h := congrArg List.length (lineSpan_append cs)
  simp only [List.length_append] at h
  omega

theorem wordSpan_length (cs : List Char) : (wordSpan cs).2.length ≤ cs.length := by
  have h := congrArg List.length (wordSpan_append cs)
  simp only [List.length_append] at h
  omega

/-- Cuts off the blanks and comments in front. -/
def triviaSpan : List Char → List Char × List Char
  | [] => ([], [])
  | '/' :: '/' :: rest =>
    let cut := lineSpan rest
    let (text, left) := triviaSpan cut.2
    ('/' :: '/' :: cut.1 ++ text, left)
  | '/' :: '*' :: rest =>
    let cut := blockSpan rest
    let (text, left) := triviaSpan cut.2
    ('/' :: '*' :: cut.1 ++ text, left)
  | c :: rest =>
    if Text.isBlank c then
      let (text, left) := triviaSpan rest
      (c :: text, left)
    else ([], c :: rest)
termination_by cs => cs.length
decreasing_by
  · have := lineSpan_length rest
    simp only [List.length_cons]
    omega
  · have := blockSpan_length rest
    simp only [List.length_cons]
    omega
  · simp

theorem triviaSpan_append (cs : List Char) : (triviaSpan cs).1 ++ (triviaSpan cs).2 = cs := by
  fun_induction triviaSpan cs with
  | case1 => rfl
  | case2 rest cut text left h ih =>
    rw [h] at ih
    simp only [List.cons_append, List.append_assoc, ih]
    rw [lineSpan_append]
  | case3 rest cut text left h ih =>
    rw [h] at ih
    simp only [List.cons_append, List.append_assoc, ih]
    rw [blockSpan_append]
  | case4 c rest _ _ hb text left h ih =>
    rw [h] at ih
    simp_all
  | case5 => rfl

theorem triviaSpan_length (cs : List Char) : (triviaSpan cs).2.length ≤ cs.length := by
  have h := congrArg List.length (triviaSpan_append cs)
  simp only [List.length_append] at h
  omega

end NavigationBar.Template
