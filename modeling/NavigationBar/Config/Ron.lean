import NavigationBar.Decimal.Reading
import NavigationBar.Json.Basic
import NavigationBar.Text.Digit
import NavigationBar.Text.Letter

/-!
# Reading RON

The object notation that configurations may be written in besides JSON. A document is read as a JSON
value: structs and maps become objects, tuples and lists become lists, `Some(x)` is `x`, and `None`,
`()` and bare names are `null`. Only that a text is no document is told, not why.
-/

namespace NavigationBar.Ron

/-- The blanks between tokens. -/
def isSpace (c : Char) : Bool :=
  let n := c.toNat
  n == 0x20 || (0x9 ≤ n && n ≤ 0xD) || n == 0x85 || n == 0x200E || n == 0x200F || n == 0x2028
    || n == 0x2029

/-- Skips a comment between `/*` and `*/`, of which `depth` more are to be closed; none if the text
ends first. -/
def skipBlock (depth : Nat) : List Char → Option (List Char)
  | [] => none
  | '/' :: '*' :: rest => skipBlock (depth + 1) rest
  | '*' :: '/' :: rest =>
    match depth with
    | 0 => some rest
    | depth + 1 => skipBlock depth rest
  | _ :: rest => skipBlock depth rest

/-- Skips blanks and comments; none if a comment is not closed. -/
def skipSpace : Nat → List Char → Option (List Char)
  | 0, cs => some cs
  | _ + 1, [] => some []
  | fuel + 1, '/' :: '/' :: rest => skipSpace fuel (rest.dropWhile (· != '\n'))
  | fuel + 1, '/' :: '*' :: rest => (skipBlock 0 rest).bind (skipSpace fuel)
  | fuel + 1, c :: rest => if isSpace c then skipSpace fuel rest else some (c :: rest)

/-- Skips blanks and comments. -/
def skip (cs : List Char) : Option (List Char) :=
  skipSpace (cs.length + 1) cs

/-- Whether a character can begin a name. -/
def isNameStart (c : Char) : Bool :=
  Text.isLetter c || c == '_'

/-- Whether a character can stand in a name. -/
def isNameChar (c : Char) : Bool :=
  Text.isLetterOrNumber c || c == '_'

/-- Whether a character can stand in a name that is marked as one. -/
def isMarkedNameChar (c : Char) : Bool :=
  isNameChar c || c == '.' || c == '+' || c == '-'

/-- Reads a name. -/
def readName (cs : List Char) : Option (String × List Char) :=
  match cs with
  | 'b' :: '"' :: _ => none
  | 'b' :: '\'' :: _ => none
  | 'b' :: 'r' :: '#' :: _ => none
  | 'b' :: 'r' :: '"' :: _ => none
  | 'r' :: '"' :: _ => none
  | 'r' :: '#' :: '"' :: _ => none
  | 'r' :: '#' :: '#' :: _ => none
  | 'r' :: '#' :: rest =>
    let name := rest.takeWhile isMarkedNameChar
    if name.isEmpty then none else some (String.ofList name, rest.dropWhile isMarkedNameChar)
  | c :: rest =>
    if isNameStart c then
      some (String.ofList (c :: rest.takeWhile isNameChar), rest.dropWhile isNameChar)
    else none
  | [] => none

/-! ## Numbers -/

/-- Whether a character can stand in the digits of an integer of any base. -/
def isIntegerChar (c : Char) : Bool :=
  c.isDigit || ('a' ≤ c && c ≤ 'f') || ('A' ≤ c && c ≤ 'F') || c == '_'

/-- Whether a character can stand in a double. -/
def isFloatChar (c : Char) : Bool :=
  c.isDigit || c == 'e' || c == 'E' || c == '.' || c == '+' || c == '-' || c == '_'

/-- The value of the digits of an integer. -/
def integerValue? (base : Nat) (ds : List Char) : Option Nat :=
  Text.digitsValue? base (ds.filter (· != '_'))

/-- The bounds of the integers of so many bits with a sign. -/
def signedBounds (bits : Nat) : Int × Int :=
  (-(twoTo (bits - 1)), twoTo (bits - 1) - 1)

/-- The bounds of the integers of so many bits without a sign. -/
def unsignedBounds (bits : Nat) : Int × Int :=
  (0, twoTo bits - 1)

/-- The types that may be named after an integer, with their bounds. -/
def integerTypes : List (String × Int × Int) :=
  [("i8", signedBounds 8), ("i16", signedBounds 16), ("i32", signedBounds 32),
    ("i64", signedBounds 64), ("u8", unsignedBounds 8), ("u16", unsignedBounds 16),
    ("u32", unsignedBounds 32), ("u64", unsignedBounds 64)]

/-- Reads an integer. -/
def readInteger (cs : List Char) : Option (Json × List Char) :=
  let (negative, body) := Decimal.splitSign cs
  let (base, body) : Nat × List Char := match body with
    | '0' :: 'x' :: r => (16, r)
    | '0' :: 'b' :: r => (2, r)
    | '0' :: 'o' :: r => (8, r)
    | r => (10, r)
  let ds := body.takeWhile isIntegerChar
  let rest := body.dropWhile isIntegerChar
  if ds.isEmpty || ds.head? == some '_' then none
  else do
    let n ← integerValue? base ds
    let i : Int := if negative then -(n : Int) else n
    let suffix := String.ofList (rest.takeWhile isNameChar)
    let (low, high) ←
      if suffix.isEmpty then some ((signedBounds 64).1, (unsignedBounds 64).2)
      else integerTypes.lookup suffix
    if low ≤ i ∧ i ≤ high then some (.int i, rest.dropWhile isNameChar) else none

/-- Whether each underscore among the characters of a double follows a digit. -/
def underscoresFit : Bool → List Char → Bool
  | _, [] => true
  | afterDigit, c :: cs =>
    if c = '_' then afterDigit && underscoresFit afterDigit cs else underscoresFit c.isDigit cs

/-- Reads a double. -/
def readFloat (cs : List Char) : Option (Json × List Char) :=
  let text := cs.takeWhile isFloatChar
  let rest := cs.dropWhile isFloatChar
  if !underscoresFit false text then none
  else do
    let x ← Decimal.readFloat? (text.filter (· != '_'))
    let rest := match rest with
      | 'f' :: '6' :: '4' :: r => r
      | r => r
    some (.ofFloat x, rest)

/-- Reads a number. -/
def readNumber (cs : List Char) : Option (Json × List Char) :=
  let body := (Decimal.splitSign cs).2
  match readName body with
  | some ("inf", rest) => some (.null, rest)
  | some ("NaN", rest) => some (.null, rest)
  | _ =>
    if (body.takeWhile isIntegerChar).length < (body.takeWhile isFloatChar).length then readFloat cs
    else (readInteger cs).or (readFloat cs)

/-! ## Texts -/

/-- Reads the hexadecimal digits of a character code, of which there may be so many. -/
def readCode (n : Nat) : Nat → List Char → Option (Nat × List Char)
  | 0, cs => some (n, cs)
  | most + 1, c :: cs =>
    match Text.digit? 16 c with
    | some d => readCode (n * 16 + d) most cs
    | none => some (n, c :: cs)
  | _ + 1, [] => some (n, [])

/-- Reads an escape whose backslash has been read. -/
def readEscape (cs : List Char) : Option (Char × List Char) :=
  match cs with
  | '\'' :: r => some ('\'', r)
  | '"' :: r => some ('"', r)
  | '\\' :: r => some ('\\', r)
  | 'n' :: r => some ('\n', r)
  | 'r' :: r => some ('\r', r)
  | 't' :: r => some ('\t', r)
  | '0' :: r => some (Char.ofNat 0, r)
  | 'x' :: a :: b :: r => do
    let high ← Text.digit? 16 a
    let low ← Text.digit? 16 b
    some (Char.ofNat (high * 16 + low), r)
  | 'u' :: '\x7b' :: r => do
    let (n, rest) ← readCode 0 6 r
    match rest with
    | '\x7d' :: rest =>
      if rest.length + 1 < r.length ∧ n.isValidChar then some (Char.ofNat n, rest) else none
    | _ => none
  | _ => none

/-- Reads a text whose opening quote has been read; `done` holds its characters so far, the last one
first. -/
def readString (done : List Char) : Nat → List Char → Option (String × List Char)
  | 0, _ => none
  | _ + 1, [] => none
  | fuel + 1, c :: cs =>
    if c = '"' then some (String.ofList done.reverse, cs)
    else if c = '\\' then (readEscape cs).bind fun (d, rest) => readString (d :: done) fuel rest
    else readString (c :: done) fuel cs

/-- Reads a raw text, whose opening quote has been read, up to a quote that is followed by so many
number signs. -/
def readRaw (marks : List Char) (done : List Char) : List Char → Option (String × List Char)
  | [] => none
  | c :: cs =>
    if c = '"' ∧ marks.isPrefixOf cs then
      some (String.ofList done.reverse, cs.drop marks.length)
    else readRaw marks (c :: done) cs

/-- Reads a text. -/
def readText (cs : List Char) : Option (String × List Char) :=
  match cs with
  | '"' :: rest => readString [] (rest.length + 1) rest
  | 'r' :: rest =>
    let marks := rest.takeWhile (· == '#')
    match rest.dropWhile (· == '#') with
    | '"' :: rest => readRaw marks [] rest
    | _ => none
  | _ => none

/-- Reads a character whose opening quote has been read. -/
def readChar (cs : List Char) : Option (Char × List Char) := do
  let (c, rest) ← match cs with
    | '\\' :: r => readEscape r
    | c :: r => if c = '\'' then none else some (c, r)
    | [] => none
  match rest with
  | '\'' :: rest => some (c, rest)
  | _ => none

/-! ## Values -/

/-- Skips a comma with the blanks around it; tells whether there was one. -/
def readComma (cs : List Char) : Option (Bool × List Char) := do
  match ← skip cs with
  | ',' :: rest => some (true, ← skip rest)
  | rest => some (false, rest)

/-- Reads a character. -/
def expect (c : Char) (cs : List Char) : Option (List Char) :=
  match cs with
  | d :: rest => if c = d then some rest else none
  | [] => none

/-- Whether a parenthesis opens a struct, that is, a name and a colon follow it. -/
def opensStruct (cs : List Char) : Bool :=
  match skip cs with
  | none => false
  | some cs =>
    match readName cs with
    | none => false
    | some (_, rest) =>
      match skip rest with
      | some (':' :: _) => true
      | _ => false

/-- How values may be nested. -/
def depthLimit : Nat := 128

/-- What a name begins when a value is expected. -/
inductive Word where
  /-- The name is a value. -/
  | value (v : Json)
  /-- A value that is there, as opposed to `None`. -/
  | present
  /-- The name of a struct, a tuple or a unit. -/
  | type

/-- What a name begins. -/
def Word.ofName : String → Word
  | "true" => .value (.bool true)
  | "false" => .value (.bool false)
  | "None" => .value .null
  | "inf" => .value .null
  | "NaN" => .value .null
  | "Some" => .present
  | _ => .type

/-- Skips blanks, a character and the blanks after it. -/
def readMark (c : Char) (cs : List Char) : Option (List Char) :=
  ((skip cs).bind (expect c)).bind skip

/-- Reads a value that begins with neither a bracket, a quote nor a name. -/
def readPlain (cs : List Char) : Option (Json × List Char) :=
  match cs with
  | [] => none
  | c :: _ =>
    if c.isDigit || c == '+' || c == '-' || c == '.' then readNumber cs
    else if c == 'r' then (readText cs).map fun (s, rest) => (.string s, rest)
    else none

/-- Skips a comma and a closing parenthesis. -/
def closeParenthesis (cs : List Char) : Option (List Char) :=
  (readComma cs).bind fun (_, rest) => expect ')' rest

mutual

/-- Reads a value, inside of which values may be nested `depth` deep. -/
def readValue (depth : Nat) (fuel : Nat) (cs : List Char) : Option (Json × List Char) :=
  match fuel with
  | 0 => none
  | fuel + 1 =>
    match cs with
    | '(' :: ')' :: rest => some (.null, rest)
    | '(' :: rest => readParenthesis depth fuel rest
    | '[' :: rest =>
      (readItems ']' depth true [] fuel rest).bind fun (items, rest) =>
        (expect ']' rest).map fun rest => (.array items, rest)
    | '\x7b' :: rest =>
      (readMembers false '\x7d' depth true [] fuel rest).bind fun (ms, rest) =>
        (expect '\x7d' rest).map fun rest => (.object ms, rest)
    | '"' :: _ => (readText cs).map fun (s, rest) => (.string s, rest)
    | '\'' :: rest => (readChar rest).map fun (c, rest) => (.string (String.singleton c), rest)
    | 'b' :: '\'' :: rest => (readChar rest).map fun (c, rest) => (.int c.toNat, rest)
    | cs =>
      match readName cs with
      | none => readPlain cs
      | some (name, rest) =>
        match Word.ofName name with
        | .value v => some (v, rest)
        | .present =>
          if depth = 0 then none
          else
            (readMark '(' rest).bind fun rest =>
              (readValue (depth - 1) fuel rest).bind fun (v, rest) =>
                (closeParenthesis rest).map fun rest => (v, rest)
        | .type =>
          match skip rest with
          | none => none
          | some ('(' :: rest) => readParenthesis depth fuel rest
          | some rest => some (.null, rest)
termination_by structural fuel

/-- Reads a struct or a tuple whose opening parenthesis has been read. -/
def readParenthesis (depth : Nat) (fuel : Nat) (cs : List Char) : Option (Json × List Char) :=
  match fuel with
  | 0 => none
  | fuel + 1 =>
    if opensStruct cs then
      (readMembers true ')' depth true [] fuel cs).bind fun (ms, rest) =>
        (closeParenthesis rest).map fun rest => (.object ms, rest)
    else
      (readItems ')' depth true [] fuel cs).bind fun (items, rest) =>
        (closeParenthesis rest).map fun rest => (.array items, rest)
termination_by structural fuel

/-- Reads elements up to a closing bracket, which stays; `comma` tells whether one may follow. -/
def readItems (closing : Char) (depth : Nat) (comma : Bool) (done : List Json) (fuel : Nat)
    (cs : List Char) : Option (List Json × List Char) :=
  match fuel with
  | 0 => none
  | fuel + 1 =>
    match skip cs with
    | none => none
    | some cs =>
      if cs.head? = some closing then some (done.reverse, cs)
      else if !comma || depth == 0 then none
      else
        (readValue (depth - 1) fuel cs).bind fun (v, rest) =>
          (readComma rest).bind fun (comma, rest) =>
            readItems closing depth comma (v :: done) fuel rest
termination_by structural fuel

/-- Reads members up to a closing bracket, which stays. Their keys are names in a struct and texts
in a map. -/
def readMembers (named : Bool) (closing : Char) (depth : Nat) (comma : Bool) (done : Fields)
    (fuel : Nat) (cs : List Char) : Option (Fields × List Char) :=
  match fuel with
  | 0 => none
  | fuel + 1 =>
    match skip cs with
    | none => none
    | some cs =>
      if cs.head? = some closing then some (done, cs)
      else if !comma || depth == 0 then none
      else
        (if named then readName cs else readText cs).bind fun (key, rest) =>
          (readMark ':' rest).bind fun rest =>
            (readValue (depth - 1) fuel rest).bind fun (v, rest) =>
              (readComma rest).bind fun (comma, rest) =>
                readMembers named closing depth comma (done.set key v) fuel rest
termination_by structural fuel

end

/-- The extensions that a document may ask for. -/
def extensions : List String :=
  ["implicit_some", "unwrap_newtypes", "unwrap_variant_newtypes", "explicit_struct_names"]

/-- Skips the extensions that a document asks for at its beginning. They do not change what a value
is read as. -/
def skipExtensions : Nat → List Char → Option (List Char)
  | 0, cs => some cs
  | fuel + 1, cs => do
    match ← skip cs with
    | '#' :: rest =>
      let rest ← expect '!' (← skip rest)
      let rest ← expect '[' (← skip rest)
      let (word, rest) ← readName (← skip rest)
      if word ≠ "enable" then none
      else
        let rest ← expect '(' (← skip rest)
        let rest ← names true fuel rest
        let rest ← expect ']' (← skip rest)
        skipExtensions fuel rest
    | cs => some cs
where
  /-- Skips the names of extensions and the closing parenthesis. -/
  names (comma : Bool) : Nat → List Char → Option (List Char)
    | 0, _ => none
    | fuel + 1, cs => do
      match ← skip cs with
      | ')' :: rest => some rest
      | cs =>
        if !comma then none
        else
          let (name, rest) ← readName cs
          if extensions.contains name then
            let (comma, rest) ← readComma rest
            names comma fuel rest
          else none

/-- Reads the characters of a document. -/
def parseChars? (cs : List Char) : Option Json := do
  let fuel := 2 * cs.length + 2
  let cs ← skipExtensions fuel cs
  let (v, rest) ← readValue depthLimit fuel (← skip cs)
  match ← skip rest with
  | [] => some v
  | _ => none

/-- Reads a document. -/
def parse? (source : String) : Option Json :=
  parseChars? source.toList

end NavigationBar.Ron
