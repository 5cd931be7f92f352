/-!
# JSON values

A document tree in which integers and doubles stay apart. The members of an object are a list of
pairs; `Fields.set` keeps such a list in strictly ascending order of its keys, and every object that
is read or computed here is built with it.
-/

namespace NavigationBar

/-- A JSON value. Integers range over the 64-bit ones, signed or not; doubles are finite. -/
inductive Json where
  /-- The absent value. -/
  | null
  /-- A truth value. -/
  | bool (b : Bool)
  /-- An integer. -/
  | int (i : Int)
  /-- A number written with a fraction or an exponent. -/
  | float (x : Float)
  /-- A text. -/
  | string (s : String)
  /-- A list of values. -/
  | array (items : List Json)
  /-- Values by key. -/
  | object (fields : List (String × Json))
deriving Inhabited

/-- The members of an object. -/
abbrev Fields := List (String × Json)

namespace Fields

/-- The value under a key. -/
def get? (fields : Fields) (key : String) : Option Json :=
  fields.lookup key

/-- Whether a key has a value. -/
def has (fields : Fields) (key : String) : Bool :=
  (fields.lookup key).isSome

/-- The members with one more, in the order of the keys; an older value under the key goes. -/
def set (key : String) (value : Json) : Fields → Fields
  | [] => [(key, value)]
  | (k, v) :: rest =>
    if key = k then (key, value) :: rest
    else if key < k then (key, value) :: (k, v) :: rest
    else (k, v) :: set key value rest

/-- The members without a key. -/
def erase (fields : Fields) (key : String) : Fields :=
  fields.filter fun p => p.1 != key

/-- Members in any order, put in the order of their keys; the last of a repeated key stays. -/
def ofList (pairs : List (String × Json)) : Fields :=
  pairs.foldl (fun fields p => fields.set p.1 p.2) []

end Fields

namespace Json

/-- Whether a value is the absent one. -/
def isNull : Json → Bool
  | null => true
  | _ => false

/-- The text of a string value. -/
def string? : Json → Option String
  | string s => some s
  | _ => none

/-- The numeric value of a number, rounded to a double. -/
def float? : Json → Option Float
  | int i =>
    some (if i < 0 then (Int64.ofInt i).toFloat else (UInt64.ofNat i.toNat).toFloat)
  | float x => some x
  | _ => none

/-- Whether a value counts as true where a condition is asked for: all but `null`, `false`, zero,
not-a-number and the empty text do. -/
def isTruthy : Json → Bool
  | null => false
  | bool b => b
  | int i => i != 0
  | float x => x != 0 && !x.isNaN
  | string s => s != ""
  | array _ => true
  | object _ => true

/-- The JSON form of a double: nothing but finite ones has one. -/
def ofFloat (x : Float) : Json :=
  if x.isFinite then float x else null

mutual

/-- A value whose objects, at every depth, have their keys in order. -/
def sorted : Json → Json
  | array items => array (sortedItems items)
  | object fields => object (Fields.ofList (sortedFields fields))
  | other => other

/-- The same, for the elements of a list. -/
def sortedItems : List Json → List Json
  | [] => []
  | v :: rest => v.sorted :: sortedItems rest

/-- The same, for the values of members. -/
def sortedFields : List (String × Json) → List (String × Json)
  | [] => []
  | (k, v) :: rest => (k, v.sorted) :: sortedFields rest

end

end Json

end NavigationBar
