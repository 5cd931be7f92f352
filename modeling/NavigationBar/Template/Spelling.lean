import NavigationBar.Template.Lexis

/-!
# Respelling a body

Authors write bodies in a looser spelling than scripts have. The pass here reads a body as a list of
pieces and spells each piece the script's way: quotes become double, `===` loses a character, `null`
and `undefined` become `()`, `var` becomes `let`, and a line break that ends a statement gets its
semicolon. The semicolon goes directly after the last significant character, before any blanks and
comments that follow it.
-/

namespace NavigationBar.Template

/-- A piece of a body, as the respelling tells them apart. -/
inductive Piece where
  /-- A quoted text in its final spelling, with its opening mark. -/
  | quoted (mark : Char) (text : List Char)
  /-- A comment, without the line break that ends it. -/
  | comment (text : List Char)
  /-- `===`, or `!==` with the `!`. -/
  | strictOperator (first : Char)
  /-- A word. -/
  | word (text : List Char)
  /-- A line break, and whether the code after it carries the statement on. -/
  | lineBreak (carriesOn : Bool)
  /-- Any other character. -/
  | other (c : Char)
deriving DecidableEq, Repr

/-- Turns a text in single quotes, whose opening quote has been read, into the inside of one in
double quotes. Gives what is left after the closing quote. -/
def requote : List Char → List Char × List Char
  | [] => ([], [])
  | ['\\'] => (['\\'], [])
  | '\\' :: '\'' :: rest =>
    let (text, left) := requote rest
    ('\'' :: text, left)
  | '\\' :: c :: rest =>
    let (text, left) := requote rest
    ('\\' :: c :: text, left)
  | '"' :: rest =>
    let (text, left) := requote rest
    ('\\' :: '"' :: text, left)
  | '\'' :: rest => ([], rest)
  | c :: rest =>
    let (text, left) := requote rest
    (c :: text, left)

theorem requote_length (cs : List Char) : (requote cs).2.length ≤ cs.length := by
  fun_induction requote cs <;> simp_all <;> omega

/-- The characters that carry a statement on to the line they begin. -/
def carryingMarks : List Char :=
  ['.', '?', ':', ')', ']', '\x7d', '(', '[', '\x7b', ',', '+', '-', '*', '/', '%', '&', '|', '^',
    '=', '<', '>']

/-- Whether the code after a line break carries on the statement before it. The end of the body
does. -/
def carriesOn (cs : List Char) : Bool :=
  match (triviaSpan cs).2 with
  | [] => true
  | '!' :: rest => rest.head? == some '='
  | c :: rest =>
    if carryingMarks.contains c then true
    else if isWordStart c then (wordSpan (c :: rest)).1 == ['e', 'l', 's', 'e']
    else false

/-- Reads the first piece of a body that begins with the character `c`. -/
def Piece.read (c : Char) (cs : List Char) : Piece × List Char :=
  if c = '"' ∨ c = '`' then
    let (text, left) := quotedSpan c cs
    (.quoted c (c :: text), left)
  else if c = '\'' then
    let (text, left) := requote cs
    (.quoted '"' ('"' :: text ++ ['"']), left)
  else if c = '/' ∧ cs.head? = some '/' then
    let (text, left) := lineSpan cs
    (.comment (c :: text), left)
  else if c = '/' ∧ cs.head? = some '*' then
    let (text, left) := blockSpan (cs.drop 1)
    (.comment ('/' :: '*' :: text), left)
  else if (c = '=' ∨ c = '!') ∧ cs.take 2 = ['=', '='] then (.strictOperator c, cs.drop 2)
  else if isWordStart c then
    let (text, left) := wordSpan cs
    (.word (c :: text), left)
  else if c = '\n' then (.lineBreak (carriesOn cs), cs)
  else (.other c, cs)

theorem Piece.read_length (c : Char) (cs : List Char) :
    (Piece.read c cs).2.length ≤ cs.length := by
  unfold Piece.read
  split
  · exact quotedSpan_length c cs
  split
  · exact requote_length cs
  split
  · exact lineSpan_length cs
  split
  · exact Nat.le_trans (blockSpan_length _) (by simp)
  split
  · simp
  split
  · exact wordSpan_length cs
  split <;> simp

/-- The pieces of a body. -/
def pieces : List Char → List Piece
  | [] => []
  | c :: cs => (Piece.read c cs).1 :: pieces (Piece.read c cs).2
termination_by cs => cs.length
decreasing_by
  have := Piece.read_length c cs
  simp only [List.length_cons]
  omega

/-- A respelling under way. -/
structure Spelled where
  /-- What has been written up to the last significant character, the last character first. -/
  settled : List Char := []
  /-- The blanks and comments written after it, the last character first. -/
  loose : List Char := []
  /-- The last significant character. -/
  previous : Option Char := none
  /-- The brackets that are open, the innermost first. -/
  opened : List Char := []

namespace Spelled

/-- All that has been written. -/
def text (s : Spelled) : List Char :=
  (s.loose ++ s.settled).reverse

/-- Writes a text that ends in a significant character, which is read as `last`. -/
def settle (s : Spelled) (text : List Char) (last : Char) : Spelled :=
  { s with settled := text.reverse ++ (s.loose ++ s.settled), loose := [], previous := some last }

/-- Writes blanks or a comment. -/
def loosen (s : Spelled) (text : List Char) : Spelled :=
  { s with loose := text.reverse ++ s.loose }

/-- Whether a complete statement has been written. -/
def endsStatement (s : Spelled) : Bool :=
  match s.previous with
  | none => false
  | some c => isWordChar c || [')', ']', '\x7d', '"', '`'].contains c

/-- Whether line breaks separate statements here: directly inside braces or outside of any
bracket. -/
def amongStatements (s : Spelled) : Bool :=
  match s.opened with
  | [] => true
  | c :: _ => c == '\x7b'

/-- Ends the statement that has been written. -/
def endStatement (s : Spelled) : Spelled :=
  { s with settled := ';' :: s.settled, previous := some ';' }

/-- The brackets that are open after one more character. -/
def track (opened : List Char) (c : Char) : List Char :=
  if ['(', '[', '\x7b'].contains c then c :: opened
  else if [')', ']', '\x7d'].contains c then opened.drop 1
  else opened

/-- The spelling of a word that is no property name. -/
def scriptWord (w : List Char) : List Char :=
  if w = "null".toList ∨ w = "undefined".toList then ['(', ')']
  else if w = "var".toList then "let".toList
  else w

/-- Writes one more piece. -/
def write (s : Spelled) : Piece → Spelled
  | .quoted mark text => s.settle text mark
  | .comment text => s.loosen text
  | .strictOperator first => s.settle [first, '='] '='
  | .word w =>
    s.settle (if s.previous = some '.' then w else scriptWord w) (w.getLast?.getD ' ')
  | .lineBreak carriesOn =>
    let s := if s.endsStatement && s.amongStatements && !carriesOn then s.endStatement else s
    s.loosen ['\n']
  | .other c =>
    let s := { s with opened := track s.opened c }
    if Text.isBlank c then s.loosen [c] else s.settle [c] c

end Spelled

/-- A body in the spelling of scripts, its conditionals as they were. -/
def respell (body : List Char) : List Char :=
  ((pieces body).foldl Spelled.write {}).text

end NavigationBar.Template
