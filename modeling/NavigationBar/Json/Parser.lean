import NavigationBar.Decimal.Binary
import NavigationBar.Json.Basic
import NavigationBar.Text.Digit

/-!
# Reading JSON

A reader for one document. It reads a value from the front of the text and says what is left. A
refusal names its cause and the text that was left when it was noticed, from which the line and the
column, counted in bytes, follow.

Integers that fit 64 bits, signed or unsigned, are kept. Other numbers become doubles: the digits
are collected in 64 bits for as long as they fit, and the result is scaled by an exact power of
ten.
-/

namespace NavigationBar.Json

/-- Why a text is no document. -/
inductive SyntaxCause where
  /-- The text ends within a list. -/
  | eofInList
  /-- The text ends within an object. -/
  | eofInObject
  /-- The text ends within a quoted text. -/
  | eofInString
  /-- The text ends where a value stands or should. -/
  | eofInValue
  /-- No colon follows a key. -/
  | expectedColon
  /-- Neither a comma nor the end follows an element. -/
  | expectedListCommaOrEnd
  /-- Neither a comma nor the end follows a member. -/
  | expectedObjectCommaOrEnd
  /-- A word is misspelt. -/
  | expectedIdent
  /-- Something else stands where a value should. -/
  | expectedValue
  /-- A backslash is followed by what it does not escape. -/
  | invalidEscape
  /-- A number lacks digits, or has one too many. -/
  | invalidNumber
  /-- A number is too large for a double. -/
  | numberOutOfRange
  /-- A control character stands within a quoted text. -/
  | controlCharacter
  /-- A key is not quoted. -/
  | keyMustBeString
  /-- Half of a surrogate pair is escaped. -/
  | loneSurrogate
  /-- A comma stands before the end of a list or an object. -/
  | trailingComma
  /-- Something follows the document. -/
  | trailingCharacters
  /-- The second half of a surrogate pair is missing. -/
  | unexpectedEndOfHexEscape
  /-- Brackets are nested too deeply. -/
  | recursionLimit
deriving DecidableEq, Repr

/-- The words for a cause. -/
def SyntaxCause.message : SyntaxCause → String
  | eofInList => "EOF while parsing a list"
  | eofInObject => "EOF while parsing an object"
  | eofInString => "EOF while parsing a string"
  | eofInValue => "EOF while parsing a value"
  | expectedColon => "expected `:`"
  | expectedListCommaOrEnd => "expected `,` or `]`"
  | expectedObjectCommaOrEnd => "expected `,` or `\x7d`"
  | expectedIdent => "expected ident"
  | expectedValue => "expected value"
  | invalidEscape => "invalid escape"
  | invalidNumber => "invalid number"
  | numberOutOfRange => "number out of range"
  | controlCharacter => "control character (\\u0000-\\u001F) found while parsing a string"
  | keyMustBeString => "key must be a string"
  | loneSurrogate => "lone leading surrogate in hex escape"
  | trailingComma => "trailing comma"
  | trailingCharacters => "trailing characters"
  | unexpectedEndOfHexEscape => "unexpected end of hex escape"
  | recursionLimit => "recursion limit exceeded"

/-- A refusal: its cause and what was left of the text. With `ahead`, the fault lies in the first
byte of what was left, and the position is the one just past that byte. -/
structure Refusal where
  /-- What is wrong. -/
  cause : SyntaxCause
  /-- The text that was left. -/
  rest : List Char
  /-- Whether the first byte of `rest` is at fault. -/
  ahead : Bool

/-- What a reader gives: a result with the text that is left, or a refusal. -/
abbrev Read (α : Type) := Except Refusal (α × List Char)

/-- A refusal at what has been read so far. -/
def refuse {α : Type} (cause : SyntaxCause) (rest : List Char) : Except Refusal α :=
  .error ⟨cause, rest, false⟩

/-- A refusal of the next byte. -/
def refuseNext {α : Type} (cause : SyntaxCause) (rest : List Char) : Except Refusal α :=
  .error ⟨cause, rest, true⟩

/-- The blanks between tokens. -/
def isSpace (c : Char) : Bool :=
  c == ' ' || c == '\n' || c == '\t' || c == '\r'

/-- The text without the blanks in front. -/
def skipSpace (cs : List Char) : List Char :=
  cs.dropWhile isSpace

/-- Reads the rest of a word such as `null`. -/
def readWord : List Char → List Char → Except Refusal (List Char)
  | [], cs => .ok cs
  | _ :: _, [] => refuse .eofInValue []
  | e :: es, c :: cs =>
    if c = e then readWord es cs
    else if c.utf8Size = 1 then refuse .expectedIdent cs
    else refuseNext .expectedIdent (c :: cs)

/-! ## Numbers -/

/-- The largest unsigned 64-bit integer. -/
def maxWord : Nat := twoTo 64 - 1

/-- The double nearest to a power of ten. -/
def powerOfTen (n : Nat) : Float :=
  Decimal.nearestRatio false (tenTo n) 1

/-- Scales a significand by a power of ten, at most 308 places at a time; none when the result is
too large. -/
def scale (x : Float) (exponent : Int) : Nat → Option Float
  | 0 => some x
  | fuel + 1 =>
    if exponent.natAbs ≤ 308 then
      if 0 ≤ exponent then
        let y := x * powerOfTen exponent.natAbs
        if y.isInf then none else some y
      else some (x / powerOfTen exponent.natAbs)
    else if x == 0 then some x
    else if 0 ≤ exponent then none
    else scale (x / powerOfTen 308) (exponent + 308) fuel

/-- A double from its sign, digits and exponent; what is left is named for the refusal. -/
def scaled (positive : Bool) (significand : Nat) (exponent : Int) (rest : List Char) : Read Json :=
  match scale (UInt64.ofNat significand).toFloat exponent 10 with
  | some x => .ok (float (if positive then x else -x), rest)
  | none => refuse .numberOutOfRange rest

/-- The digits of an exponent after the first; none when they exceed 31 bits, with what is left
from the digit that exceeds them. -/
def readExponentDigits (n : Nat) : List Char → Option Nat × List Char
  | [] => (some n, [])
  | c :: cs =>
    if c.isDigit then
      if twoTo 31 - 1 < n * 10 + Text.decimalDigit c then (none, cs)
      else readExponentDigits (n * 10 + Text.decimalDigit c) cs
    else (some n, c :: cs)

/-- Reads an exponent, whose mark has been read, and finishes the number. -/
def readExponent (positive : Bool) (significand : Nat) (start : Int) (cs : List Char) :
    Read Json :=
  let (up, cs) : Bool × List Char := match cs with
    | '+' :: r => (true, r)
    | '-' :: r => (false, r)
    | r => (true, r)
  match cs with
  | [] => refuse .eofInValue []
  | c :: r =>
    if c.isDigit then
      match readExponentDigits (Text.decimalDigit c) r with
      | (some n, rest) =>
        let e : Int := if up then min (start + n) (twoTo 31 - 1) else max (start - n) (-(twoTo 31))
        scaled positive significand e rest
      | (none, rest) =>
        if significand ≠ 0 ∧ up then refuse .numberOutOfRange rest
        else .ok (float (if positive then 0.0 else -0.0), rest.dropWhile Char.isDigit)
    else if c.utf8Size = 1 then refuse .invalidNumber r
    else refuseNext .invalidNumber (c :: r)

/-- Reads the end of a number: an exponent or nothing. -/
def readScale (positive : Bool) (significand : Nat) (exponent : Int) (cs : List Char) :
    Read Json :=
  match cs with
  | 'e' :: r => readExponent positive significand exponent r
  | 'E' :: r => readExponent positive significand exponent r
  | r => scaled positive significand exponent r

/-- Collects the digits of a fraction for as long as they fit 64 bits. The last component says
whether all did. -/
def readFraction (significand places : Nat) : List Char → Nat × Nat × List Char × Bool
  | [] => (significand, places, [], true)
  | c :: cs =>
    if c.isDigit then
      if maxWord < significand * 10 + Text.decimalDigit c then (significand, places, c :: cs, false)
      else readFraction (significand * 10 + Text.decimalDigit c) (places + 1) cs
    else (significand, places, c :: cs, true)

/-- Reads a fraction, whose point has been read. -/
def readPoint (positive : Bool) (significand : Nat) (before : Int) (cs : List Char) : Read Json :=
  let (s, places, rest, fits) := readFraction significand 0 cs
  let exponent : Int := before - places
  if fits then
    if places = 0 then
      match rest with
      | [] => refuseNext .eofInValue []
      | r => refuseNext .invalidNumber r
    else readScale positive s exponent rest
  else readScale positive s exponent (rest.dropWhile Char.isDigit)

/-- The digits of an integer for as long as they fit 64 bits; the last component says whether all
did. -/
def readInteger (n : Nat) : List Char → Nat × List Char × Bool
  | [] => (n, [], true)
  | c :: cs =>
    if c.isDigit then
      if maxWord < n * 10 + Text.decimalDigit c then (n, c :: cs, false)
      else readInteger (n * 10 + Text.decimalDigit c) cs
    else (n, c :: cs, true)

/-- Reads what follows the integer part of a number that fits 64 bits. -/
def readNumberEnd (positive : Bool) (n : Nat) (cs : List Char) : Read Json :=
  match cs with
  | '.' :: r => readPoint positive n 0 r
  | 'e' :: r => readExponent positive n 0 r
  | 'E' :: r => readExponent positive n 0 r
  | r =>
    if positive then .ok (int n, r)
    else if n = 0 ∨ twoTo 63 < n then .ok (float (-(UInt64.ofNat n).toFloat), r)
    else .ok (int (-(n : Int)), r)

/-- Reads a number whose sign has been read. -/
def readNumber (positive : Bool) (cs : List Char) : Read Json :=
  match cs with
  | [] => refuse .eofInValue []
  | '0' :: r =>
    match r with
    | d :: _ => if d.isDigit then refuseNext .invalidNumber r else readNumberEnd positive 0 r
    | [] => readNumberEnd positive 0 r
  | c :: r =>
    if c.isDigit then
      let (n, rest, fits) := readInteger 0 (c :: r)
      if fits then readNumberEnd positive n rest
      else
        let skipped := (rest.takeWhile Char.isDigit).length
        match rest.dropWhile Char.isDigit with
        | '.' :: r => readPoint positive n skipped r
        | r => readScale positive n skipped r
    else if c.utf8Size = 1 then refuse .invalidNumber r
    else refuseNext .invalidNumber (c :: r)

/-! ## Texts -/

/-- The bytes of a text, no further than is needed to see that there are four. -/
def hasFourBytes (cs : List Char) : Bool :=
  4 ≤ (cs.take 4).foldl (fun n c => n + c.utf8Size) 0

/-- Reads the four digits of an escaped code unit. -/
def readUnit (cs : List Char) : Except Refusal (Nat × List Char) :=
  if hasFourBytes cs then go 0 4 cs else refuse .eofInString []
where
  /-- Reads the digits that are still due. -/
  go (n : Nat) : Nat → List Char → Except Refusal (Nat × List Char)
    | 0, cs => .ok (n, cs)
    | _ + 1, [] => refuse .eofInString []
    | due + 1, c :: cs =>
      match Text.digit? 16 c with
      | some d => go (n * 16 + d) due cs
      | none =>
        if c.utf8Size = 1 then refuse .invalidEscape cs else refuseNext .invalidEscape (c :: cs)

/-- What is left after the next byte was looked at in vain. -/
def refusePast {α : Type} (cause : SyntaxCause) : List Char → Except Refusal α
  | [] => refuse .eofInString []
  | c :: cs => if c.utf8Size = 1 then refuse cause cs else refuseNext cause (c :: cs)

/-- Reads an escape, whose backslash has been read. -/
def readEscape (cs : List Char) : Except Refusal (Char × List Char) :=
  match cs with
  | [] => refuse .eofInString []
  | '"' :: r => .ok ('"', r)
  | '\\' :: r => .ok ('\\', r)
  | '/' :: r => .ok ('/', r)
  | 'b' :: r => .ok (Char.ofNat 8, r)
  | 'f' :: r => .ok (Char.ofNat 12, r)
  | 'n' :: r => .ok ('\n', r)
  | 'r' :: r => .ok ('\r', r)
  | 't' :: r => .ok ('\t', r)
  | 'u' :: r =>
    match readUnit r with
    | .error e => .error e
    | .ok (n, r) =>
      if 0xDC00 ≤ n ∧ n ≤ 0xDFFF then refuse .loneSurrogate r
      else if 0xD800 ≤ n ∧ n ≤ 0xDBFF then
        match r with
        | '\\' :: 'u' :: r =>
          match readUnit r with
          | .error e => .error e
          | .ok (m, r) =>
            if m < 0xDC00 ∨ 0xDFFF < m then refuse .loneSurrogate r
            else .ok (Char.ofNat ((n - 0xD800) * 0x400 + (m - 0xDC00) + 0x10000), r)
        | '\\' :: r => refusePast .unexpectedEndOfHexEscape r
        | r => refusePast .unexpectedEndOfHexEscape r
      else .ok (Char.ofNat n, r)
  | r => refusePast .invalidEscape r

/-- Reads a text, whose opening quote has been read; `done` holds its characters so far, the last
one first. -/
def readString (done : List Char) : Nat → List Char → Except Refusal (String × List Char)
  | 0, cs => refuse .eofInString cs
  | _ + 1, [] => refuse .eofInString []
  | fuel + 1, c :: cs =>
    if c = '"' then .ok (String.ofList done.reverse, cs)
    else if c = '\\' then
      match readEscape cs with
      | .error e => .error e
      | .ok (d, rest) => readString (d :: done) fuel rest
    else if c.toNat < 32 then refuse .controlCharacter cs
    else readString (c :: done) fuel cs

/-- Reads a text up to its closing quote. -/
def readText (cs : List Char) : Except Refusal (String × List Char) :=
  readString [] (cs.length + 1) cs

/-! ## Values -/

/-- The number of brackets that may be open at a time, plus one. -/
def depthLimit : Nat := 128

mutual

/-- Reads a value; `depth` more brackets may be opened, but for the last. -/
def readValue (depth : Nat) : Nat → List Char → Read Json
  | 0, cs => refuseNext .eofInValue cs
  | fuel + 1, cs =>
    match skipSpace cs with
    | [] => refuseNext .eofInValue []
    | 'n' :: r => (readWord ['u', 'l', 'l'] r).map fun r => (null, r)
    | 't' :: r => (readWord ['r', 'u', 'e'] r).map fun r => (bool true, r)
    | 'f' :: r => (readWord ['a', 'l', 's', 'e'] r).map fun r => (bool false, r)
    | '-' :: r => readNumber false r
    | '"' :: r => (readText r).map fun (s, r) => (string s, r)
    | '[' :: r =>
      if depth ≤ 1 then refuseNext .recursionLimit ('[' :: r)
      else (readItems (depth - 1) true [] fuel r).map fun (vs, r) => (array vs, r)
    | '\x7b' :: r =>
      if depth ≤ 1 then refuseNext .recursionLimit ('\x7b' :: r)
      else (readMembers (depth - 1) true [] fuel r).map fun (ms, r) => (object ms, r)
    | c :: r => if c.isDigit then readNumber true (c :: r) else refuseNext .expectedValue (c :: r)

/-- Reads the elements of a list up to its closing bracket; `done` holds those already read, the
last one first. -/
def readItems (depth : Nat) (first : Bool) (done : List Json) :
    Nat → List Char → Except Refusal (List Json × List Char)
  | 0, cs => refuseNext .eofInList cs
  | fuel + 1, cs =>
    match skipSpace cs with
    | [] => refuseNext .eofInList []
    | ']' :: r => .ok (done.reverse, r)
    | c :: r =>
      let next : Except Refusal (List Char) :=
        if first then .ok (c :: r)
        else if c = ',' then
          match skipSpace r with
          | [] => refuseNext .eofInValue []
          | ']' :: r => refuseNext .trailingComma (']' :: r)
          | r => .ok r
        else refuseNext .expectedListCommaOrEnd (c :: r)
      match next with
      | .error e => .error e
      | .ok cs =>
        match readValue depth fuel cs with
        | .error e => .error e
        | .ok (v, rest) => readItems depth false (v :: done) fuel rest

/-- Reads the members of an object up to its closing bracket; the later of two equal keys stays. -/
def readMembers (depth : Nat) (first : Bool) (done : Fields) :
    Nat → List Char → Except Refusal (Fields × List Char)
  | 0, cs => refuseNext .eofInObject cs
  | fuel + 1, cs =>
    match skipSpace cs with
    | [] => refuseNext .eofInObject []
    | '\x7d' :: r => .ok (done, r)
    | c :: r =>
      let next : Except Refusal (List Char) :=
        if first then .ok (c :: r)
        else if c = ',' then
          match skipSpace r with
          | [] => refuseNext .eofInValue []
          | '\x7d' :: r => refuseNext .trailingComma ('\x7d' :: r)
          | r => .ok r
        else refuseNext .expectedObjectCommaOrEnd (c :: r)
      match next with
      | .error e => .error e
      | .ok ('"' :: cs) =>
        match readText cs with
        | .error e => .error e
        | .ok (k, rest) =>
          match skipSpace rest with
          | [] => refuseNext .eofInObject []
          | ':' :: rest =>
            match readValue depth fuel rest with
            | .error e => .error e
            | .ok (v, rest) => readMembers depth false (done.set k v) fuel rest
          | rest => refuseNext .expectedColon rest
      | .ok cs => refuseNext .keyMustBeString cs

end

/-- A place in a text: its line, from one on, and the bytes before it on that line. -/
structure Place where
  /-- The line. -/
  line : Nat
  /-- The bytes before the place on its line. -/
  column : Nat
deriving DecidableEq, Repr

/-- The place just past a text. -/
def Place.past (cs : List Char) : Place :=
  cs.foldl (fun p c => if c = '\n' then ⟨p.line + 1, 0⟩ else ⟨p.line, p.column + c.utf8Size⟩) ⟨1, 0⟩

/-- Where in a document a fault is reported that was noticed when `rest` was left. With `ahead` it
lies in the next byte. -/
def placeOf (source rest : List Char) (ahead : Bool) : Place :=
  let p := Place.past (source.take (source.length - rest.length))
  if ahead then
    match rest with
    | [] => p
    | '\n' :: _ => ⟨p.line + 1, 0⟩
    | _ => ⟨p.line, p.column + 1⟩
  else p

/-- Reads a document: one value with nothing but blanks around it. -/
def parse (source : String) : Except (SyntaxCause × Place) Json :=
  let cs := source.toList
  let result : Except Refusal Json := do
    let (v, rest) ← readValue depthLimit (2 * cs.length + 2) cs
    match skipSpace rest with
    | [] => .ok v
    | rest => refuseNext .trailingCharacters rest
  result.mapError fun r => (r.cause, placeOf cs r.rest r.ahead)

end NavigationBar.Json
