import NavigationBar.Decimal.Reading
import NavigationBar.Script.Token
import NavigationBar.Text.Blank
import NavigationBar.Text.Digit

/-!
# Reading tokens

Names, blanks and digits are those of ASCII; other characters stand in texts and comments only. A
text between backticks holds code between a dollar sign with an opening brace and the closing brace
that belongs to it. Only that a script is malformed is told, not why.
-/

namespace NavigationBar.Script

/-- Whether a character is a blank between tokens. -/
def isSpace (c : Char) : Bool :=
  c == ' ' || c == '\t' || c == '\n' || c == '\r' || c == '\x0c'

/-- Whether a character goes on with a name. -/
def isWordChar (c : Char) : Bool :=
  c.isAlphanum || c == '_'

/-! ## Comments -/

/-- Skips a comment between `/*` and `*/`, inside of which `depth` more are open; none if the script
ends first. -/
def skipComment (depth : Nat) : List Char → Option (List Char)
  | [] => none
  | '/' :: '*' :: rest => skipComment (depth + 1) rest
  | '*' :: '/' :: rest =>
    match depth with
    | 0 => some rest
    | depth + 1 => skipComment depth rest
  | _ :: rest => skipComment depth rest

/-! ## Numbers -/

/-- Where the reading of a decimal number is: whether a point and whether an exponent were read. -/
structure NumberPart where
  /-- A point was read. -/
  point : Bool := false
  /-- An exponent was read. -/
  exponent : Bool := false

/-- Splits the characters of a decimal number from what follows it; underscores are dropped. A point
belongs to the number if a digit follows it or nothing that a property or a range could be. -/
def splitNumber (part : NumberPart) : List Char → List Char × List Char
  | [] => ([], [])
  | '_' :: rest => splitNumber part rest
  | '.' :: rest =>
    if part.point then ([], '.' :: rest)
    else
      match rest with
      | [] => ([], ['.'])
      | c :: _ =>
        if c.isDigit then
          let (ds, rest) := splitNumber { part with point := true } rest
          ('.' :: ds, rest)
        else if c = '_' ∨ c = '.' ∨ c.isAlpha then ([], '.' :: rest)
        else
          let (ds, rest) := splitNumber { part with point := true } rest
          ('.' :: '0' :: ds, rest)
  | 'e' :: rest =>
    if part.exponent then ([], 'e' :: rest)
    else
      match rest with
      | '+' :: rest =>
        let (ds, rest) := splitNumber ⟨true, true⟩ rest
        ('e' :: '+' :: ds, rest)
      | '-' :: rest =>
        let (ds, rest) := splitNumber ⟨true, true⟩ rest
        ('e' :: '-' :: ds, rest)
      | c :: rest =>
        if c.isDigit then
          let (ds, rest) := splitNumber ⟨true, true⟩ rest
          ('e' :: c :: ds, rest)
        else ([], 'e' :: c :: rest)
      | [] => ([], ['e'])
  | c :: rest =>
    if c.isDigit then
      let (ds, rest) := splitNumber part rest
      (c :: ds, rest)
    else ([], c :: rest)

/-- The token of a decimal number: an integer of 64 bits with a sign if it is one, else a double. -/
def decimalToken (negative : Bool) (ds : List Char) : Option Token :=
  let magnitude := Decimal.digitsValue ds
  if ds.all Char.isDigit ∧ magnitude < (if negative then twoTo 63 + 1 else twoTo 63) then
    some (.int (if negative then -(magnitude : Int) else magnitude))
  else (Decimal.readFloat? ((if negative then ['-'] else []) ++ ds)).map .float

/-- Reads the digits of an integer in a base, which counts as a word of 64 bits. -/
def readBased (base : Nat) (cs : List Char) : Option (Token × List Char) := do
  let isDigit (c : Char) : Bool := (Text.digit? 16 c).isSome && (base == 16 || c.isDigit)
  let ds := (cs.takeWhile fun c => isDigit c || c == '_').filter (· != '_')
  let rest := cs.dropWhile fun c => isDigit c || c == '_'
  if ds.isEmpty then none
  let n ← Text.digitsValue? base ds
  if n < twoTo 63 then return (.int n, rest)
  else if n < twoTo 64 then return (.int ((n : Int) - twoTo 64), rest)
  else none

/-- Reads a number that begins with a digit. -/
def readNumber (negative : Bool) (cs : List Char) : Option (Token × List Char) :=
  let based (base : Nat) (rest : List Char) : Option (Token × List Char) :=
    if negative then none else readBased base rest
  match cs with
  | '0' :: 'x' :: rest => based 16 rest
  | '0' :: 'X' :: rest => based 16 rest
  | '0' :: 'o' :: rest => based 8 rest
  | '0' :: 'O' :: rest => based 8 rest
  | '0' :: 'b' :: rest => based 2 rest
  | '0' :: 'B' :: rest => based 2 rest
  | cs =>
    let (ds, rest) := splitNumber {} cs
    (decimalToken negative ds).map fun t => (t, rest)

/-! ## Texts -/

/-- Reads so many hexadecimal digits. -/
def readHex (n : Nat) : Nat → List Char → Option (Nat × List Char)
  | 0, cs => some (n, cs)
  | _ + 1, [] => none
  | count + 1, c :: cs => (Text.digit? 16 c).bind fun d => readHex (n * 16 + d) count cs

/-- Reads the character code of an escape. -/
def readCode (count : Nat) (cs : List Char) : Option (Char × List Char) := do
  let (n, rest) ← readHex 0 count cs
  if n.isValidChar then some (Char.ofNat n, rest) else none

/-- Reads an escape whose backslash has been read, in a text between two characters `mark`. A line
break, with the blanks after it, stands for nothing. -/
def readEscape (mark : Char) (cs : List Char) : Option (List Char × List Char) :=
  match cs with
  | [] => none
  | c :: rest =>
    if c = mark then some ([c], rest)
    else
      match c with
      | '\\' => some (['\\'], rest)
      | 't' => some (['\t'], rest)
      | 'n' => some (['\n'], rest)
      | 'r' => some (['\r'], rest)
      | 'x' => (readCode 2 rest).map fun (d, rest) => ([d], rest)
      | 'u' => (readCode 4 rest).map fun (d, rest) => ([d], rest)
      | 'U' => (readCode 8 rest).map fun (d, rest) => ([d], rest)
      | '\n' => some ([], rest.dropWhile fun d => d != '\n' && Text.isBlank d)
      | _ => none

/-- Reads a text between two characters `mark`, the first of which has been read. A doubled mark
stands for one. `done` holds the characters so far, the last one first. -/
def readQuoted (mark : Char) (done : List Char) : Nat → List Char → Option (String × List Char)
  | 0, _ => none
  | _ + 1, [] => none
  | fuel + 1, c :: rest =>
    if c = mark then
      match rest with
      | d :: rest' =>
        if d = mark then readQuoted mark (mark :: done) fuel rest'
        else some (String.ofList done.reverse, rest)
      | [] => some (String.ofList done.reverse, [])
    else if c = '\\' then
      (readEscape mark rest).bind fun (ds, rest) => readQuoted mark (ds.reverse ++ done) fuel rest
    else if c = '\n' then none
    else if c = '\r' ∧ rest.head? = some '\n' then readQuoted mark done fuel rest
    else readQuoted mark (c :: done) fuel rest

/-- Reads a text between backticks up to its end or to code in it, which the flag tells. -/
def readVerbatim (done : List Char) : List Char → Option (String × Bool × List Char)
  | [] => none
  | '`' :: '`' :: rest => readVerbatim ('`' :: done) rest
  | '`' :: rest => some (String.ofList done.reverse, false, rest)
  | '$' :: '\x7b' :: rest => some (String.ofList done.reverse, true, rest)
  | '\r' :: '\n' :: rest => readVerbatim ('\n' :: done) rest
  | c :: rest => readVerbatim (c :: done) rest

/-- Drops the line break right after an opening backtick. -/
def dropFirstBreak : List Char → List Char
  | '\r' :: '\n' :: rest => rest
  | '\r' :: rest => rest
  | '\n' :: rest => rest
  | rest => rest

/-! ## Signs -/

/-- Reads a sign or an operator. The longest one counts, and some belong to no script. -/
def readSign (cs : List Char) : Option (Token × List Char) :=
  match cs with
  | '#' :: '\x7b' :: r => some (.sign .openMap, r)
  | '(' :: '*' :: _ => none
  | '(' :: r => some (.sign .openParen, r)
  | ')' :: r => some (.sign .closeParen, r)
  | '[' :: r => some (.sign .openBracket, r)
  | ']' :: r => some (.sign .closeBracket, r)
  | ',' :: r => some (.sign .comma, r)
  | ';' :: r => some (.sign .semicolon, r)
  | ':' :: ':' :: _ => none
  | ':' :: '=' :: _ => none
  | ':' :: ';' :: _ => none
  | ':' :: r => some (.sign .colon, r)
  | '.' :: '.' :: '.' :: _ => none
  | '.' :: '.' :: '=' :: r => some (.operator .rangeClosed, r)
  | '.' :: '.' :: r => some (.operator .range, r)
  | '.' :: r => some (.sign .dot, r)
  | '?' :: '?' :: r => some (.operator .coalesce, r)
  | '?' :: '.' :: r => some (.sign .safeDot, r)
  | '?' :: '[' :: r => some (.sign .openSafeBracket, r)
  | '=' :: '=' :: '=' :: _ => none
  | '=' :: '=' :: r => some (.operator .eq, r)
  | '=' :: '>' :: r => some (.sign .arrow, r)
  | '=' :: r => some (.assign none, r)
  | '!' :: '=' :: '=' :: _ => none
  | '!' :: '=' :: r => some (.operator .ne, r)
  | '!' :: 'i' :: 'n' :: r =>
    if r.head?.any isWordChar then some (.sign .bang, 'i' :: 'n' :: r)
    else some (.operator .isNotIn, r)
  | '!' :: r => some (.sign .bang, r)
  | '<' :: '<' :: '=' :: r => some (.assign (some .shiftLeft), r)
  | '<' :: '<' :: r => some (.operator .shiftLeft, r)
  | '<' :: '=' :: r => some (.operator .le, r)
  | '<' :: '-' :: _ => none
  | '<' :: '|' :: _ => none
  | '<' :: r => some (.operator .lt, r)
  | '>' :: '>' :: '=' :: r => some (.assign (some .shiftRight), r)
  | '>' :: '>' :: r => some (.operator .shiftRight, r)
  | '>' :: '=' :: r => some (.operator .ge, r)
  | '>' :: r => some (.operator .gt, r)
  | '+' :: '+' :: _ => none
  | '+' :: '=' :: r => some (.assign (some .add), r)
  | '+' :: r => some (.operator .add, r)
  | '-' :: '-' :: _ => none
  | '-' :: '>' :: _ => none
  | '-' :: '=' :: r => some (.assign (some .sub), r)
  | '-' :: r => some (.operator .sub, r)
  | '*' :: ')' :: _ => none
  | '*' :: '*' :: '=' :: r => some (.assign (some .pow), r)
  | '*' :: '*' :: r => some (.operator .pow, r)
  | '*' :: '=' :: r => some (.assign (some .mul), r)
  | '*' :: r => some (.operator .mul, r)
  | '/' :: '=' :: r => some (.assign (some .div), r)
  | '/' :: r => some (.operator .div, r)
  | '%' :: '=' :: r => some (.assign (some .rem), r)
  | '%' :: r => some (.operator .rem, r)
  | '&' :: '&' :: r => some (.operator .and, r)
  | '&' :: '=' :: r => some (.assign (some .bitAnd), r)
  | '&' :: r => some (.operator .bitAnd, r)
  | '|' :: '|' :: r => some (.operator .or, r)
  | '|' :: '=' :: r => some (.assign (some .bitOr), r)
  | '|' :: '>' :: _ => none
  | '|' :: r => some (.operator .bitOr, r)
  | '^' :: '=' :: r => some (.assign (some .bitXor), r)
  | '^' :: r => some (.operator .bitXor, r)
  | _ => none

/-- Reads a character between two apostrophes, the first of which has been read. -/
def readCharacter (cs : List Char) : Option (Token × List Char) := do
  let (s, rest) ← readQuoted '\'' [] (cs.length + 1) cs
  match s.toList with
  | [c] => some (.char c, rest)
  | _ => none

/-- Reads a token other than a brace or a text between backticks. A minus sign that stands in front
of an operand belongs to the digits after it. -/
def readToken (inFront : Bool) (cs : List Char) : Option (Token × List Char) :=
  match cs with
  | [] => none
  | '"' :: rest => (readQuoted '"' [] (rest.length + 1) rest).map fun (s, rest) => (.text s, rest)
  | '\'' :: rest => readCharacter rest
  | c :: rest =>
    if c.isDigit then readNumber false cs
    else if c.isAlpha || c == '_' then
      (Token.ofWord? (String.ofList (cs.takeWhile isWordChar))).map fun t =>
        (t, cs.dropWhile isWordChar)
    else if c == '-' && inFront && rest.head?.any Char.isDigit then readNumber true rest
    else readSign cs

/-! ## Scripts -/

/-- Whether the next token may begin an operand after the tokens so far, the last one first. -/
def isInFront : List Token → Bool
  | [] => true
  | t :: _ => t.expectsOperand

mutual

/-- Reads the tokens of a script, or, with `open? = some n`, of code in a text up to the brace that
closes it, while `n` braces are open. `done` holds the tokens so far, the last one first. -/
def readTokens (open? : Option Nat) (done : List Token) (fuel : Nat) (cs : List Char) :
    Option (List Token × List Char) :=
  match fuel with
  | 0 => none
  | fuel + 1 =>
    match cs with
    | [] => if open?.isNone then some (done.reverse, []) else none
    | '/' :: '/' :: rest => readTokens open? done fuel (rest.dropWhile (· != '\n'))
    | '/' :: '*' :: rest =>
      match skipComment 0 rest with
      | none => none
      | some rest => readTokens open? done fuel rest
    | '#' :: '\x7b' :: rest =>
      readTokens (open?.map (· + 1)) (.sign .openMap :: done) fuel rest
    | '\x7b' :: rest => readTokens (open?.map (· + 1)) (.sign .openBrace :: done) fuel rest
    | '\x7d' :: rest =>
      match open? with
      | some 0 => some (done.reverse, rest)
      | _ => readTokens (open?.map (· - 1)) (.sign .closeBrace :: done) fuel rest
    | '`' :: rest =>
      match readMixed [] fuel (dropFirstBreak rest) with
      | none => none
      | some (t, rest) => readTokens open? (t :: done) fuel rest
    | c :: rest =>
      if isSpace c then readTokens open? done fuel rest
      else
        match readToken (isInFront done) (c :: rest) with
        | none => none
        | some (t, rest) => readTokens open? (t :: done) fuel rest
termination_by structural fuel

/-- Reads a text between backticks from after its opening one, or from after code in it; `done`
holds what was read of it, the last part first. -/
def readMixed (done : List (String × List Token)) (fuel : Nat) (cs : List Char) :
    Option (Token × List Char) :=
  match fuel with
  | 0 => none
  | fuel + 1 =>
    match readVerbatim [] cs with
    | none => none
    | some (s, false, rest) =>
      some (if done.isEmpty then .text s else .mixed done.reverse s, rest)
    | some (s, true, rest) =>
      match readTokens (some 0) [] fuel rest with
      | none => none
      | some (code, rest) => readMixed ((s, code) :: done) fuel rest
termination_by structural fuel

end

/-- The tokens of a script. -/
def tokenize (source : List Char) : Option (List Token) :=
  (readTokens none [] (2 * source.length + 2) source).map Prod.fst

end NavigationBar.Script
