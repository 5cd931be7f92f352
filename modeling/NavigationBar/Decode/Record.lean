import NavigationBar.Decode.Basic

/-!
# Records

A record type is described by its name, its fields in order, and what each field's value does to a
record under construction. A record is written as an object, whose unknown keys are ignored, or as
the list of its fields' values. The first member that is refused, in the order in which they stand,
decides the refusal; fields that are missing are noticed after that.
-/

namespace NavigationBar.Decode

/-- When a field may be left out. -/
inductive Presence where
  /-- Always. -/
  | optional
  /-- In an object, but not in a list. -/
  | listed
  /-- Never. -/
  | required
deriving DecidableEq, Repr

/-- A field of a record type `α`. -/
structure Field (α : Type) where
  /-- Its key. -/
  key : String
  /-- Decodes the field's value into the record. -/
  put : Origin → α → Json → Decoded α
  /-- When it may be left out. -/
  presence : Presence := .optional

/-- A record type. -/
structure Record (α : Type) where
  /-- Its name in messages. -/
  name : String
  /-- Its fields, in order. -/
  fields : List (Field α)
  /-- The record all of whose fields are left out. -/
  initial : α

namespace Field

variable {α β : Type}

/-- A field that keeps what a decoder makes of its value. -/
def of (key : String) (d : Decoder β) (keep : α → β → α) : Field α where
  key := key
  put := fun o r v => (d o v).map (keep r)

/-- The same field, to be left out in fewer places. -/
def needed (f : Field α) (presence : Presence) : Field α :=
  { f with presence := presence }

end Field

namespace Record

variable {α : Type}

/-- The field with a key. -/
def field? (r : Record α) (key : String) : Option (Field α) :=
  r.fields.find? fun f => f.key == key

/-- Decodes members into a record, one after the other. -/
def putAll (r : Record α) (o : Origin) (start : α) (members : Fields) : Decoded α :=
  members.foldlM (fun acc (k, v) =>
    match r.field? k with
    | some f => f.put o acc v
    | none => .ok acc) start

/-- The first required field that is no key of some members. -/
def missing? (r : Record α) (members : Fields) : Option (Field α) :=
  r.fields.find? fun f => f.presence == .required && !members.has f.key

/-- Decodes members as a record. -/
def ofMembers (r : Record α) (o : Origin) (members : Fields) : Decoded α := do
  let result ← r.putAll o r.initial members
  match r.missing? members with
  | some f => .error (.missingField f.key)
  | none => .ok result

/-- A count and its noun. -/
def counted (n : Nat) : String :=
  toString n ++ (if n = 1 then " element" else " elements")

/-- Decodes the values of fields one after the other; gives what is left of the values too. -/
def putItems (o : Origin) (expected : String) (index : Nat) (acc : α) :
    List (Field α) → List Json → Decoded (α × List Json)
  | [], items => .ok (acc, items)
  | f :: fs, [] =>
    if f.presence ≠ .optional then .error (.invalidLength index expected)
    else putItems o expected (index + 1) acc fs []
  | f :: fs, v :: items => do
    let acc ← f.put o acc v
    putItems o expected (index + 1) acc fs items

/-- Decodes a list of values as a record; `kind` describes the record type. -/
def ofItems (r : Record α) (kind : String) (o : Origin) (items : List Json) : Decoded α := do
  let size := r.fields.length
  let (result, rest) ←
    putItems o (kind ++ " with " ++ counted size) 0 r.initial r.fields items
  if rest.isEmpty then return result
  else
    match o with
    | .document => .error (.invalidLength items.length "fewer elements in array")
    | .copy => .error (.invalidLength items.length (counted size ++ " in sequence"))

/-- Decodes a record. -/
def decode (r : Record α) : Decoder α
  | o, .object members => r.ofMembers o members
  | o, .array items => r.ofItems ("struct " ++ r.name) o items
  | _, v => mismatch v ("struct " ++ r.name)

end Record

end NavigationBar.Decode
