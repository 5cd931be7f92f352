import NavigationBar.Decimal.Power
import NavigationBar.Decode.Error

/-!
# Decoders

Decoders of JSON values into texts, truth values, numbers, lists and names. A value is decoded
either in its document or, when an enclosing type had to set its members aside first, in a copy of
it; the two differ in how they count the elements of a list that is too long, and in that a name in
a copy may carry an empty object.
-/

namespace NavigationBar

/-- The outcome of decoding. -/
abbrev Decoded (α : Type) := Except Decode.Error α

namespace Decode

/-- Where the value stands that is decoded. -/
inductive Origin where
  /-- In its document. -/
  | document
  /-- In a copy that an enclosing type set aside. -/
  | copy
deriving DecidableEq, Repr

/-- A decoder. -/
abbrev Decoder (α : Type) := Origin → Json → Decoded α

/-- The refusal of a value whose kind is not the expected one. -/
def mismatch {α : Type} (v : Json) (expected : String) : Decoded α :=
  .error (.invalidType (.ofJson v) expected)

/-- Decodes any value. -/
def value : Decoder Json := fun _ v => .ok v

/-- Decodes a text. -/
def text : Decoder String
  | _, .string s => .ok s
  | _, v => mismatch v "a string"

/-- Decodes a truth value. -/
def flag : Decoder Bool
  | _, .bool b => .ok b
  | _, v => mismatch v "a boolean"

/-- Decodes an integer between two bounds, of a type that goes by `name`. -/
def integer (low high : Int) (name : String) : Decoder Int
  | _, .int i =>
    if low ≤ i ∧ i ≤ high then .ok i else .error (.invalidValue (.integer i) name)
  | _, v => mismatch v name

/-- Decodes a natural number up to a bound, of a type that goes by `name`. -/
def natural (high : Nat) (name : String) : Decoder Nat :=
  fun o v => (integer 0 high name o v).map Int.toNat

/-- Decodes a route index. -/
def index : Decoder Nat := natural (twoTo 64 - 1) "usize"

/-- Decodes a number as a double. -/
def double : Decoder Float
  | _, .int i => .ok (((Json.int i).float?).getD 0)
  | _, .float x => .ok x
  | _, v => mismatch v "f64"

/-- Decodes a single character. -/
def character : Decoder Char
  | _, .string s =>
    match s.toList with
    | [c] => .ok c
    | _ => .error (.invalidValue (.text s) "a character")
  | _, v => mismatch v "a character"

/-- Decodes an optional value: `null` stands for none. -/
def nullable {α : Type} (d : Decoder α) : Decoder (Option α)
  | _, .null => .ok none
  | o, v => (d o v).map some

/-- Decodes a list, element by element. -/
def list {α : Type} (d : Decoder α) : Decoder (List α)
  | o, .array items => items.mapM (d o)
  | _, v => mismatch v "a sequence"

/-- Decodes a list of two values, each of a type of its own. Values of the wrong type are noticed
before values that are missing or too many. -/
def pair {α β : Type} (first : Decoder α) (second : Decoder β) : Decoder (α × β)
  | _, .array [] => .error (.invalidLength 0 "a tuple of size 2")
  | o, .array [a] => do
    let _ ← first o a
    .error (.invalidLength 1 "a tuple of size 2")
  | o, .array (a :: b :: rest) => do
    let x ← first o a
    let y ← second o b
    if rest.isEmpty then return (x, y)
    else .error (.invalidLength (rest.length + 2) "fewer elements in array")
  | _, v => mismatch v "a tuple of size 2"

/-- Decodes an object, as its members. -/
def members : Decoder Fields
  | _, .object fields => .ok fields
  | _, v => mismatch v "a map"

/-- Decodes an object whose values are all of one type. -/
def dictionary {α : Type} (d : Decoder α) : Decoder (List (String × α))
  | o, .object fields => fields.mapM fun (k, v) => (d o v).map fun x => (k, x)
  | _, v => mismatch v "a map"

/-- Decodes what a name may carry: nothing. -/
def nothing : Decoder Unit
  | _, .null => .ok ()
  | .copy, .object [] => .ok ()
  | _, v => mismatch v "unit"

/-- Decodes one of some names, written as a text or as an object with that one key. -/
def name {α : Type} (table : List (String × α)) : Decoder α :=
  let find (s : String) : Decoded α :=
    match table.lookup s with
    | some a => .ok a
    | none => .error (.unknownVariant s (table.map Prod.fst))
  fun
  | _, .string s => find s
  | o, .object [(s, payload)] => do
    let a ← find s
    nothing o payload
    return a
  | _, .object _ => .error (.invalidValue .map "map with a single key")
  | _, v => mismatch v "string or map"

/-- Decodes the first of two types that fits; `type` names the choice. -/
def either {α β γ : Type} (first : Decoder α) (second : Decoder β) (left : α → γ) (right : β → γ)
    (type : String) : Decoder γ := fun _ v =>
  match first .document v with
  | .ok a => .ok (left a)
  | .error _ =>
    match second .document v with
    | .ok b => .ok (right b)
    | .error _ => .error (.noVariant type)

end Decode

end NavigationBar
