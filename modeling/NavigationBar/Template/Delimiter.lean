import NavigationBar.Text.Blank

/-!
# Template delimiters

A text is a template when, blanks around it aside, it stands between `[[[` and `]]]`. Its body is
what is left when every delimiter in it, and the blanks around the rest, are taken away.
-/

namespace NavigationBar.Template

/-- The opening delimiter. -/
def opening : List Char := ['[', '[', '[']

/-- The closing delimiter. -/
def closing : List Char := [']', ']', ']']

/-- A text without its opening delimiters, found from left to right. -/
def eraseOpening : List Char → List Char
  | '[' :: '[' :: '[' :: rest => eraseOpening rest
  | c :: rest => c :: eraseOpening rest
  | [] => []

/-- A text without its closing delimiters, found from left to right. -/
def eraseClosing : List Char → List Char
  | ']' :: ']' :: ']' :: rest => eraseClosing rest
  | c :: rest => c :: eraseClosing rest
  | [] => []

/-- Whether a text is a template. -/
def isDelimited (cs : List Char) : Bool :=
  let t := Text.trim cs
  opening.isPrefixOf t && closing.isSuffixOf t

/-- The body of a template; none for a text that is no template. -/
def body? (cs : List Char) : Option (List Char) :=
  if isDelimited cs then some (Text.trim (eraseClosing (eraseOpening cs))) else none

/-- A text as a template: itself if it is one, and else put between delimiters. -/
def wrap (cs : List Char) : List Char :=
  if isDelimited cs then cs else opening ++ cs ++ closing

end NavigationBar.Template
