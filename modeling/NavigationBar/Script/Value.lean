import NavigationBar.Decimal.Notation
import NavigationBar.Json.Basic
import NavigationBar.Script.Closeness
import NavigationBar.Script.Syntax
import NavigationBar.Text.Shown

/-!
# Values of scripts

What an expression is worth: the values of JSON, characters, ranges of integers, and functions. A
value of JSON becomes a value of a script and, if there is neither a function nor a range in it, a
value of a script becomes one of JSON.
-/

namespace NavigationBar.Script

/-- A value. -/
inductive Value where
  /-- The absent value. -/
  | unit
  /-- A truth value. -/
  | bool (b : Bool)
  /-- An integer of 64 bits with a sign. -/
  | int (i : Int)
  /-- An integer beyond those, which only JSON has. -/
  | large (n : Nat)
  /-- A double. -/
  | float (x : Float)
  /-- A character. -/
  | char (c : Char)
  /-- A text. -/
  | text (s : String)
  /-- A list. -/
  | array (items : Array Value)
  /-- Values by key, in the order of the keys. -/
  | map (members : List (String × Value))
  /-- The integers from one up to another, which belongs to them if `closed`. -/
  | range (low high : Int) (closed : Bool)
  /-- A function without a name, with the places of the variables it keeps. -/
  | closure (params : List String) (captured : List (String × Nat × Bool)) (body : Stmt)
deriving Inhabited

namespace Value

/-- The name of the type of a value. -/
def typeName : Value → String
  | unit => "()"
  | bool _ => "bool"
  | int _ => "i64"
  | large _ => "u64"
  | float _ => "f64"
  | char _ => "char"
  | text _ => "string"
  | array _ => "array"
  | map _ => "map"
  | range _ _ closed => if closed then "range=" else "range"
  | closure .. => "Fn"

/-! ## Members of maps -/

/-- The members of a map with one put under a key. -/
def insertMember (key : String) (v : Value) : List (String × Value) → List (String × Value)
  | [] => [(key, v)]
  | (k, w) :: rest =>
    if key = k then (key, v) :: rest
    else if key < k then (key, v) :: (k, w) :: rest
    else (k, w) :: insertMember key v rest

/-! ## Values and JSON -/

mutual

/-- The value that a JSON value is in a script. -/
def ofJson : Json → Value
  | .null => unit
  | .bool b => bool b
  | .int i => if i < twoTo 63 then int i else large i.toNat
  | .float x => float x
  | .string s => text s
  | .array items => array (ofItems items).toArray
  | .object fields => map (ofFields fields)

/-- The same, for the elements of a list. -/
def ofItems : List Json → List Value
  | [] => []
  | v :: rest => ofJson v :: ofItems rest

/-- The same, for the members of an object. -/
def ofFields : List (String × Json) → List (String × Value)
  | [] => []
  | (k, v) :: rest => insertMember k (ofJson v) (ofFields rest)

end

mutual

/-- The JSON value that a value is; none for a function, a range, and what one is part of. -/
def toJson? : Value → Option Json
  | unit => some .null
  | bool b => some (.bool b)
  | int i => some (.int i)
  | large n => some (.int n)
  | float x => some (Json.ofFloat x)
  | char c => some (.string (String.singleton c))
  | text s => some (.string s)
  | array ⟨items⟩ => (toItems? items).map .array
  | map members => (toFields? members).map .object
  | range .. => none
  | closure .. => none

/-- The same, for the elements of a list. -/
def toItems? : List Value → Option (List Json)
  | [] => some []
  | v :: rest =>
    match toJson? v, toItems? rest with
    | some v, some rest => some (v :: rest)
    | _, _ => none

/-- The same, for the members of a map. -/
def toFields? : List (String × Value) → Option (List (String × Json))
  | [] => some []
  | (k, v) :: rest =>
    match toJson? v, toFields? rest with
    | some v, some rest => some ((k, v) :: rest)
    | _, _ => none

end

/-! ## Texts of values -/

/-- The text of a range. -/
def rangeText (low high : Int) (closed : Bool) : String :=
  toString low ++ (if closed then "..=" else "..") ++ toString high

mutual

/-- The text of a value inside a list or a map. -/
def nestedText : Value → String
  | unit => "()"
  | bool b => if b then "true" else "false"
  | int i => toString i
  | large n => toString n
  | float x => Decimal.Style.nested.write x
  | char c => String.ofList ('\'' :: Text.shownChar '\'' c ++ ['\''])
  | text s => Text.shown s
  | array ⟨items⟩ => "[" ++ ", ".intercalate (nestedItems items) ++ "]"
  | map members => "#\x7b" ++ ", ".intercalate (nestedMembers members) ++ "\x7d"
  | range low high closed => rangeText low high closed
  | closure .. => "Fn"

/-- The texts of the elements of a list. -/
def nestedItems : List Value → List String
  | [] => []
  | v :: rest => v.nestedText :: nestedItems rest

/-- The texts of the members of a map. -/
def nestedMembers : List (String × Value) → List String
  | [] => []
  | (k, v) :: rest => (Text.shown k ++ ": " ++ v.nestedText) :: nestedMembers rest

end

/-- The text of a value by itself, as it is joined to other texts. -/
def plainText : Value → String
  | unit => ""
  | float x => Decimal.Style.script.write x
  | char c => String.singleton c
  | text s => s
  | v => v.nestedText

/-! ## Equality -/

/-- Whether an integer and a double count as the same number. -/
def intEqFloat (i : Int) (x : Float) : Bool :=
  areClose (Int64.ofInt i).toFloat x

mutual

/-- Whether two values are equal as parts of other values are. An integer may equal a double, and
doubles are equal if they are close; otherwise values of different types differ, and functions equal
nothing. -/
def equals : Value → Value → Bool
  | unit, unit => true
  | bool a, bool b => a == b
  | int a, int b => a == b
  | int a, float y => intEqFloat a y
  | float x, int b => intEqFloat b x
  | large a, large b => a == b
  | float x, float y => areClose x y
  | char a, char b => a == b
  | text a, text b => a == b
  | char a, text b => b.toList == [a]
  | text a, char b => a.toList == [b]
  | array ⟨a⟩, array ⟨b⟩ => equalItems a b
  | map a, map b => equalMembers a b
  | range a b c, range a' b' c' => a == a' && b == b' && c == c'
  | _, _ => false

/-- Whether two lists have equal elements. -/
def equalItems : List Value → List Value → Bool
  | [], [] => true
  | v :: vs, w :: ws => v.equals w && equalItems vs ws
  | _, _ => false

/-- Whether two maps have equal members. -/
def equalMembers : List (String × Value) → List (String × Value) → Bool
  | [], [] => true
  | (k, v) :: vs, (l, w) :: ws => k == l && v.equals w && equalMembers vs ws
  | _, _ => false

end

mutual

/-- Whether two values are equal and of the same type all through, as the cases of a `switch` ask.
-/
def matchesCase : Value → Value → Bool
  | int _, float _ => false
  | float _, int _ => false
  | float x, float y => x.toBits == y.toBits
  | char _, text _ => false
  | text _, char _ => false
  | array ⟨a⟩, array ⟨b⟩ => matchItems a b
  | map a, map b => matchMembers a b
  | v, w => v.equals w

/-- The same, for the elements of two lists. -/
def matchItems : List Value → List Value → Bool
  | [], [] => true
  | v :: vs, w :: ws => v.matchesCase w && matchItems vs ws
  | _, _ => false

/-- The same, for the members of two maps. -/
def matchMembers : List (String × Value) → List (String × Value) → Bool
  | [], [] => true
  | (k, v) :: vs, (l, w) :: ws => k == l && v.matchesCase w && matchMembers vs ws
  | _, _ => false

end

end Value

end NavigationBar.Script
