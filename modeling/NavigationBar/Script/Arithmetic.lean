import NavigationBar.Decimal.Binary
import NavigationBar.Script.Fault

/-!
# Operators

What operators make of values. Integers have 64 bits, and a result beyond those is a failure; an
integer beside a double counts as a double. A text takes in any value that is added to it. Values of
different types are unequal, and neither is less than the other. Comparisons of doubles are exact
while a script runs and allow for rounding between literals.
-/

namespace NavigationBar.Script

/-- The outcome of a step of a script. -/
abbrev Outcome (α : Type) := Except Fault α

namespace Value

/-- An integer, if it has 64 bits. -/
def ofInt (i : Int) : Outcome Value :=
  if -(twoTo 63) ≤ i ∧ i < twoTo 63 then .ok (int i) else .error .arithmetic

/-- An integer as a double. -/
def floatOfInt (i : Int) : Float :=
  (Int64.ofInt i).toFloat

/-- A power of an integer. -/
def intPower (x y : Int) : Outcome Value :=
  if y < 0 then .error .arithmetic
  else if x = 0 ∨ x = 1 then .ok (int (if y = 0 then 1 else x))
  else if x = -1 then .ok (int (if y % 2 = 0 then 1 else -1))
  else if 63 < y then .error .arithmetic
  else ofInt (Int.pow x y.toNat)

/-- The integer that a word of 64 bits is. -/
def ofWord (w : BitVec 64) : Value :=
  int w.toInt

/-- An integer moved to the left by so many bits; what leaves the word is lost. -/
def shiftedLeft (x : Int) (n : Nat) : Value :=
  if 63 < n then int 0 else ofWord (BitVec.ofInt 64 x <<< n)

/-- An integer moved to the right by so many bits, the sign coming after. -/
def shiftedRight (x : Int) (n : Nat) : Value :=
  if 63 < n then int (if x < 0 then -1 else 0) else int (x >>> n)

/-- An operator between integers. -/
def intOperation (op : Operator) (x y : Int) : Outcome Value :=
  match op with
  | .add => ofInt (x + y)
  | .sub => ofInt (x - y)
  | .mul => ofInt (x * y)
  | .div => if y = 0 then .error .arithmetic else ofInt (x.tdiv y)
  | .rem =>
    if y = 0 ∨ (x = -(twoTo 63) ∧ y = -1) then .error .arithmetic else ofInt (x.tmod y)
  | .pow => intPower x y
  | .shiftLeft => .ok (if y < 0 then shiftedRight x (-y).toNat else shiftedLeft x y.toNat)
  | .shiftRight => .ok (if y < 0 then shiftedLeft x (-y).toNat else shiftedRight x y.toNat)
  | .bitAnd => .ok (ofWord (BitVec.ofInt 64 x &&& BitVec.ofInt 64 y))
  | .bitOr => .ok (ofWord (BitVec.ofInt 64 x ||| BitVec.ofInt 64 y))
  | .bitXor => .ok (ofWord (BitVec.ofInt 64 x ^^^ BitVec.ofInt 64 y))
  | .eq => .ok (bool (decide (x = y)))
  | .ne => .ok (bool (decide (x ≠ y)))
  | .lt => .ok (bool (decide (x < y)))
  | .le => .ok (bool (decide (x ≤ y)))
  | .gt => .ok (bool (decide (x > y)))
  | .ge => .ok (bool (decide (x ≥ y)))
  | .range => .ok (range x y false)
  | .rangeClosed => .ok (range x y true)
  | .isIn | .isNotIn | .and | .or | .coalesce => .error .unknownFunction

/-- An operator between doubles. -/
def floatOperation (op : Operator) (x y : Float) : Outcome Value :=
  match op with
  | .add => .ok (float (x + y))
  | .sub => .ok (float (x - y))
  | .mul => .ok (float (x * y))
  | .div => .ok (float (x / y))
  | .rem => .ok (float (Decimal.remainder x y))
  | .pow => .ok (float (Float.pow x y))
  | .eq => .ok (bool (x == y))
  | .ne => .ok (bool (x != y))
  | .lt => .ok (bool (decide (x < y)))
  | .le => .ok (bool (decide (x ≤ y)))
  | .gt => .ok (bool (decide (x > y)))
  | .ge => .ok (bool (decide (x ≥ y)))
  | _ => .error .unknownFunction

/-- A comparison by an order; none for an operator that is no comparison. -/
def comparison? (op : Operator) (o : Ordering) : Option Bool :=
  match op with
  | .eq => some (o == .eq)
  | .ne => some (o != .eq)
  | .lt => some (o == .lt)
  | .le => some (o != .gt)
  | .gt => some (o == .gt)
  | .ge => some (o != .lt)
  | _ => none

/-- An operator between values that can be compared and nothing else. -/
def compared (op : Operator) (o : Ordering) : Outcome Value :=
  match comparison? op o with
  | some b => .ok (bool b)
  | none => .error .unknownFunction

/-- An operator between values of different types that have nothing in common. -/
def unlike (op : Operator) : Outcome Value :=
  match op with
  | .ne => .ok (bool true)
  | .eq | .lt | .le | .gt | .ge => .ok (bool false)
  | _ => .error .unknownFunction

/-- An operator between values that are equal or not and have no order. -/
def unordered (op : Operator) (v w : Value) : Outcome Value :=
  match op with
  | .eq => .ok (bool (v.equals w))
  | .ne => .ok (bool (!v.equals w))
  | _ => .error .unknownFunction

/-- A text without the parts of it that are another text. -/
def withoutPart (part : List Char) : Nat → List Char → List Char
  | 0, cs => cs
  | _ + 1, [] => []
  | fuel + 1, c :: cs =>
    if !part.isEmpty && part.isPrefixOf (c :: cs) then
      withoutPart part fuel ((c :: cs).drop part.length)
    else c :: withoutPart part fuel cs

/-- An operator between texts. -/
def textOperation (op : Operator) (s t : String) : Outcome Value :=
  match op with
  | .add => .ok (text (s ++ t))
  | .sub => .ok (text (String.ofList (withoutPart t.toList (s.length + 1) s.toList)))
  | op => compared op (compare s t)

/-- The members of two maps; those of the second one stay. -/
def mixed (ms : List (String × Value)) (ns : List (String × Value)) : List (String × Value) :=
  ns.foldl (fun acc (k, v) => insertMember k v acc) ms

/-- An operator between two values, each operand having been evaluated. -/
def operation (op : Operator) (v w : Value) : Outcome Value :=
  match v, w with
  | int x, int y => intOperation op x y
  | int x, float y => floatOperation op (floatOfInt x) y
  | float x, int y => floatOperation op x (floatOfInt y)
  | float x, float y => floatOperation op x y
  | text s, text t => textOperation op s t
  | text s, char c => textOperation op s (String.singleton c)
  | char c, text t =>
    if op = .sub then .error .unknownFunction else textOperation op (String.singleton c) t
  | char c, char d =>
    if op = .add then .ok (text (String.ofList [c, d])) else compared op (compare c d)
  | text s, w => if op = .add then .ok (text (s ++ w.plainText)) else unlike op
  | v, text t => if op = .add then .ok (text (v.plainText ++ t)) else unlike op
  | bool a, bool b =>
    match op with
    | .bitAnd => .ok (bool (a && b))
    | .bitOr => .ok (bool (a || b))
    | .bitXor => .ok (bool (a != b))
    | .eq => .ok (bool (a == b))
    | .ne => .ok (bool (a != b))
    | .lt | .le | .gt | .ge => .ok (bool false)
    | _ => .error .unknownFunction
  | unit, unit =>
    match op with
    | .eq => .ok (bool true)
    | .ne | .lt | .le | .gt | .ge => .ok (bool false)
    | _ => .error .unknownFunction
  | large a, large b => compared op (compare a b)
  | array a, array b => if op = .add then .ok (array (a ++ b)) else unordered op (array a) (array b)
  | map a, map b => if op = .add then .ok (map (mixed a b)) else unordered op (map a) (map b)
  | range a b c, range a' b' c' => unordered op (range a b c) (range a' b' c')
  | closure .., closure .. => .error .unknownFunction
  | large _, _ => .error .unknownFunction
  | _, large _ => .error .unknownFunction
  | _, _ => unlike op

/-- An operator between two doubles that are literals. -/
def literalFloatOperation (op : Operator) (x y : Float) : Outcome Value :=
  match closeComparison? op x y with
  | some b => .ok (bool b)
  | none => floatOperation op x y

/-- An operator between two literals. Doubles that are close count as equal, and false is less than
true, which it is not while a script runs. -/
def literalOperation (op : Operator) (v w : Value) : Outcome Value :=
  match v, w with
  | int x, float y => literalFloatOperation op (floatOfInt x) y
  | float x, int y => literalFloatOperation op x (floatOfInt y)
  | float x, float y => literalFloatOperation op x y
  | bool a, bool b =>
    match comparison? op (compare a b) with
    | some holds => .ok (bool holds)
    | none => operation op (bool a) (bool b)
  | v, w => operation op v w

/-- An operator in front of a value. -/
def unaryOperation (name : String) (v : Value) : Outcome Value :=
  match name, v with
  | "-", int i => ofInt (-i)
  | "-", float x => .ok (float (-x))
  | "+", int i => .ok (int i)
  | "+", float x => .ok (float x)
  | "!", bool b => .ok (bool (!b))
  | _, _ => .error .unknownFunction

end Value

end NavigationBar.Script
