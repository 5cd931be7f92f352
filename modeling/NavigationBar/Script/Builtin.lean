import NavigationBar.Decimal.Reading
import NavigationBar.Script.Arithmetic
import NavigationBar.Text.Blank
import NavigationBar.Text.Case
import NavigationBar.Text.Digit

/-!
# Functions of the language

The functions that every script may call, that call no function themselves and that change none of
their arguments. They are told apart by their names and by the types of their arguments; a call
`f(x, y)` is the same as `x.f(y)`.
-/

namespace NavigationBar.Script

namespace Value

/-! ## Texts -/

/-- The place of the first part of a text that is another text, counted from `at`. -/
def findPart (part : List Char) (start : Nat) : List Char → Option Nat
  | [] => if part.isEmpty then some start else none
  | c :: cs =>
    if part.isPrefixOf (c :: cs) then some start else findPart part (start + 1) cs

/-- Whether a text has a part that is another text. -/
def hasPart (s part : List Char) : Bool :=
  (findPart part 0 s).isSome

/-- The pieces of a text between the parts of it that are another text, at most `most` of them;
`piece` is what was read of the piece at hand, the last character first. -/
def splitAtParts (part : List Char) (most : Option Nat) (piece : List Char) :
    Nat → List Char → List (List Char)
  | 0, cs => [piece.reverse ++ cs]
  | fuel + 1, cs =>
    if most = some 1 then [piece.reverse ++ cs]
    else if part.isPrefixOf cs then
      piece.reverse :: splitAtParts part (most.map (· - 1)) [] fuel (cs.drop part.length)
    else
      match cs with
      | [] => [piece.reverse]
      | c :: cs => splitAtParts part most (c :: piece) fuel cs

/-- The pieces of a text between the places where it has an empty part: before, between and after
its characters. -/
def splitCharacters (most : Option Nat) (cs : List Char) : List (List Char) :=
  let pieces := [] :: (cs.map fun c => [c]) ++ [[]]
  match most with
  | none => pieces
  | some n => pieces.take (n - 1) ++ (if n = 0 then [] else [(pieces.drop (n - 1)).flatten])

/-- The pieces of a text between the parts of it that are another text. -/
def split (s part : List Char) (most : Option Nat) : List (List Char) :=
  if most = some 0 then []
  else if part.isEmpty then splitCharacters most s
  else splitAtParts part most [] (s.length + 1) s

/-- The words of a text between blanks; `word` is what was read of the word at hand, the last
character first. -/
def words (word : List Char) : List Char → List (List Char)
  | [] => if word.isEmpty then [] else [word.reverse]
  | c :: cs =>
    if Text.isBlank c then (if word.isEmpty then words [] cs else word.reverse :: words [] cs)
    else words (c :: word) cs

/-- Texts as a list. -/
def ofTexts (pieces : List (List Char)) : Value :=
  array (pieces.map fun p => text (String.ofList p)).toArray

/-- The place that an index of a text means; a negative one counts from the end. -/
def startOf (length : Nat) (i : Int) : Nat :=
  if i < 0 then length - (-i).toNat else i.toNat

/-- A part of a text by its start and its length. -/
def subText (s : String) (start length : Int) : Value :=
  let cs := s.toList
  if length ≤ 0 then text ""
  else text (String.ofList ((cs.drop (startOf cs.length start)).take length.toNat))

/-- The place of a part in a text from a place on, or `-1`. -/
def indexOf (s part : String) (start : Int) : Value :=
  let cs := s.toList
  let n := startOf cs.length start
  if cs.length ≤ n then int (-1)
  else
    match findPart part.toList n (cs.drop n) with
    | some i => int i
    | none => int (-1)

/-- Reads an integer, blanks around it aside. -/
def parseInt (s : String) (base : Nat) : Outcome Value :=
  let (negative, ds) := Decimal.splitSign (Text.trim s.toList)
  if ds.isEmpty then .error .arithmetic
  else
    match Text.digitsValue? base ds with
    | some n => ofInt (if negative then -(n : Int) else n)
    | none => .error .arithmetic

/-- Reads a double, blanks around it aside. -/
def parseFloat (s : String) : Outcome Value :=
  match Decimal.readFloat? (Text.trim s.toList) with
  | some x => .ok (float x)
  | none => .error .arithmetic

/-! ## Numbers -/

/-- A double without its fraction, as an integer. -/
def truncated (x : Float) : Outcome Value :=
  match Decimal.Binary.ofFloat? x with
  | some b => ofInt b.truncated
  | none => if x.isNaN then .ok (int 0) else .error .arithmetic

/-- A double that a function makes whole, or the part of it that is not. -/
def rounded? (name : String) (x : Float) : Option Float :=
  let whole := if x < 0 then x.ceil else x.floor
  match name with
  | "floor" => some x.floor
  | "ceiling" => some x.ceil
  | "round" => some x.round
  | "int" => some whole
  | "fraction" => some (x - whole)
  | _ => none

/-- The larger of two doubles, or the smaller one; the other one beside what is no number. -/
def chosenFloat (larger : Bool) (x y : Float) : Float :=
  if x.isNaN then y
  else if y.isNaN then x
  else if decide (x ≤ y) = larger then y else x

/-- The larger of two values, or the smaller one. -/
def chosen (larger : Bool) (v w : Value) : Outcome Value :=
  match v, w with
  | int i, int j => .ok (int (if decide (i ≤ j) = larger then j else i))
  | float x, float y => .ok (float (chosenFloat larger x y))
  | int i, float y => .ok (float (chosenFloat larger (floatOfInt i) y))
  | float x, int j => .ok (float (chosenFloat larger x (floatOfInt j)))
  | char c, char d => .ok (char (if decide (c ≤ d) = larger then d else c))
  | text s, text t => .ok (text (if decide (s ≤ t) = larger then t else s))
  | _, _ => .error .unknownFunction

/-! ## Collections -/

/-- Whether a value is in a collection. -/
def isIn (v collection : Value) : Outcome Value :=
  match collection, v with
  | text s, text t => .ok (bool (hasPart s.toList t.toList))
  | text s, char c => .ok (bool (s.toList.contains c))
  | array items, v => .ok (bool (items.any fun w => w.equals v))
  | map members, text k => .ok (bool (members.lookup k).isSome)
  | range low high closed, int i =>
    .ok (bool (decide (low ≤ i ∧ (i < high ∨ (closed = true ∧ i = high)))))
  | _, _ => .error .unknownFunction

/-- The place of a value in a list from a place on, or `-1`. -/
def itemIndex (items : Array Value) (v : Value) (start : Int) : Value :=
  let n := startOf items.size start
  match (items.toList.drop n).findIdx? fun w => w.equals v with
  | some i => int ((n + i : Nat) : Int)
  | none => int (-1)

/-- The element of a list at a place; the absent value behind the end. -/
def itemAt (items : Array Value) (i : Int) : Value :=
  items[startOf items.size i]?.getD unit

/-- The character of a text at a place; the absent value where there is none. -/
def charAt (s : String) (i : Int) : Value :=
  let cs := if i < 0 then s.toList.reverse else s.toList
  (cs[if i < 0 then (-i).toNat - 1 else i.toNat]?.map char).getD unit

/-- What a function of the language makes of its arguments. -/
def callBuiltin (name : String) (args : List Value) : Outcome Value :=
  match name, args with
  | "len", [text s] => .ok (int s.length)
  | "len", [array items] => .ok (int items.size)
  | "len", [map members] => .ok (int members.length)
  | "is_empty", [text s] => .ok (bool s.isEmpty)
  | "is_empty", [array items] => .ok (bool items.isEmpty)
  | "is_empty", [map members] => .ok (bool members.isEmpty)
  | "is_empty", [range low high closed] =>
    .ok (bool (!decide (low < high ∨ (closed = true ∧ low = high))))
  | "get", [text s, int i] => .ok (charAt s i)
  | "get", [array items, int i] => .ok (itemAt items i)
  | "get", [map members, text k] => .ok ((members.lookup k).getD unit)
  | "keys", [map members] => .ok (array (members.map fun m => text m.1).toArray)
  | "values", [map members] => .ok (array (members.map Prod.snd).toArray)
  | "contains", [collection, v] => isIn v collection
  | "starts_with", [text s, text t] => .ok (bool (t.toList.isPrefixOf s.toList))
  | "ends_with", [text s, text t] => .ok (bool (t.toList.isSuffixOf s.toList))
  | "index_of", [text s, text t] => .ok (indexOf s t 0)
  | "index_of", [text s, char c] => .ok (indexOf s (String.singleton c) 0)
  | "index_of", [text s, text t, int i] => .ok (indexOf s t i)
  | "index_of", [text s, char c, int i] => .ok (indexOf s (String.singleton c) i)
  | "index_of", [array items, v] => .ok (itemIndex items v 0)
  | "index_of", [array items, v, int i] => .ok (itemIndex items v i)
  | "sub_string", [text s, int start] => .ok (subText s start s.utf8ByteSize)
  | "sub_string", [text s, int start, int length] => .ok (subText s start length)
  | "sub_string", [text s, range low high closed] =>
    let low := max low 0
    .ok (subText s low (max high low - low + (if closed then 1 else 0)))
  | "split", [text s] => .ok (ofTexts (words [] s.toList))
  | "split", [text s, text t] => .ok (ofTexts (split s.toList t.toList none))
  | "split", [text s, char c] => .ok (ofTexts (split s.toList [c] none))
  | "split", [text s, text t, int n] =>
    .ok (ofTexts (split s.toList t.toList (some (max 1 n.toNat))))
  | "split", [text s, char c, int n] =>
    .ok (ofTexts (split s.toList [c] (some (max 1 n.toNat))))
  | "split", [text s, int i] =>
    let n := startOf s.length i
    .ok (ofTexts [s.toList.take n, s.toList.drop n])
  | "max", [v, w] => chosen true v w
  | "min", [v, w] => chosen false v w
  | "abs", [int i] => ofInt i.natAbs
  | "abs", [float x] => .ok (float x.abs)
  | "to_upper", [text s] => .ok (text (Text.toUpper s))
  | "to_lower", [text s] => .ok (text (Text.toLower s))
  | "parse_int", [text s] => parseInt s 10
  | "parse_int", [text s, int base] =>
    if 2 ≤ base ∧ base ≤ 36 then parseInt s base.toNat else .error .arithmetic
  | "parse_float", [text s] => parseFloat s
  | "to_string", [v] => .ok (text v.plainText)
  | "to_int", [int i] => .ok (int i)
  | "to_int", [float x] => truncated x
  | "to_int", [char c] => .ok (int c.toNat)
  | "to_float", [int i] => .ok (float (floatOfInt i))
  | "to_float", [float x] => .ok (float x)
  | "type_of", [v] => .ok (text v.typeName)
  | "print", [] => .ok unit
  | "print", [_] => .ok unit
  | "debug", [] => .ok unit
  | "debug", [_] => .ok unit
  | name, [float x] =>
    match rounded? name x with
    | some y => .ok (float y)
    | none => .error .unknownFunction
  | _, _ => .error .unknownFunction

/-- An operator between two values, where membership counts as one. -/
def applyOperator (op : Operator) (v w : Value) : Outcome Value :=
  match op with
  | .isIn => isIn v w
  | .isNotIn => do unaryOperation "!" (← isIn v w)
  | op => operation op v w

end Value

end NavigationBar.Script
