/-!
# Excerpts

A few lines of a document around a place in it, each with its number, and a caret below the place.
-/

namespace NavigationBar

/-- A line without the carriage return before its line feed. -/
def dropReturn (line : List Char) : List Char :=
  if line.getLast? = some '\r' then line.dropLast else line

/-- The lines of a text of which `line` is the beginning of the first, its last character first. -/
def linesFrom (line : List Char) : List Char → List (List Char)
  | [] => if line.isEmpty then [] else [line.reverse]
  | c :: cs =>
    if c = '\n' then dropReturn line.reverse :: linesFrom [] cs
    else linesFrom (c :: line) cs

/-- The lines of a text. A line feed ends a line, and a carriage return before it goes with it; no
line follows a line feed that ends the text. -/
def textLines (cs : List Char) : List (List Char) :=
  linesFrom [] cs

/-- A line number, in front of a line; it takes at least four places. -/
def lineNumber (n : Nat) : List Char :=
  let ds := Nat.toDigits 10 n
  ' ' :: List.replicate (4 - ds.length) ' ' ++ ds ++ [' ', '|', ' ']

/-- A row of an excerpt: a line of the document, or the caret. -/
inductive ExcerptRow where
  /-- A line and its number. -/
  | line (number : Nat) (text : List Char)
  /-- The caret below a line, so many places after the start of its text. -/
  | caret (number : Nat) (places : Nat)
deriving DecidableEq, Repr

/-- The text of a row. -/
def ExcerptRow.text : ExcerptRow → List Char
  | line n text => lineNumber n ++ text ++ ['\n']
  | caret n places =>
    List.replicate (lineNumber n).length ' ' ++ List.replicate places ' ' ++ ['^', '\n']

/-- The rows of an excerpt of `source` around a line and a column: up to two lines before it and one
after it. -/
def excerptRows (source : List Char) (line column : Nat) : List ExcerptRow :=
  let lines := textLines source
  let first := max 1 (line - 2)
  let last := min lines.length (line + 1)
  (List.range (last + 1 - first)).flatMap fun i =>
    let n := first + i
    let row := ExcerptRow.line n (lines[n - 1]?.getD [])
    if n = line then [row, .caret n (column - 1)] else [row]

/-- An excerpt as text. -/
def excerpt (source : String) (line column : Nat) : String :=
  String.ofList ((excerptRows source.toList line column).flatMap ExcerptRow.text)

end NavigationBar
