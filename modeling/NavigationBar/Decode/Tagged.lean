import NavigationBar.Decode.Record

/-!
# Tagged alternatives

A value whose alternative is named inside it: by one of the members of an object, or by the first
element of a list. What is left without the name holds the alternative's own fields. They are
decoded from a copy, since the name may come after them.
-/

namespace NavigationBar.Decode

/-- One alternative: decodes the members or the list elements that are left without the tag. -/
structure Alternative (α : Type) where
  /-- The tag that names it. -/
  tag : String
  /-- Decodes its fields from an object. -/
  ofMembers : Fields → Decoded α
  /-- Decodes its fields from a list. -/
  ofItems : List Json → Decoded α

namespace Alternative

variable {α β : Type}

/-- An alternative without fields. -/
def plain (tag : String) (a : α) : Alternative α where
  tag := tag
  ofMembers := fun _ => .ok a
  ofItems := fun items =>
    if items.isEmpty then .ok a
    else .error (.invalidLength items.length "0 elements in sequence")

/-- An alternative whose fields form a record; `record.name` is the alternative's name in messages.
-/
def fields (tag : String) (record : Record β) (make : β → α) : Alternative α where
  tag := tag
  ofMembers := fun ms => (record.ofMembers .copy ms).map make
  ofItems := fun items =>
    (record.ofItems ("struct variant " ++ record.name) .copy items).map make

end Alternative

/-- A type whose values carry the name of their alternative. -/
structure Tagged (α : Type) where
  /-- The type's name in messages. -/
  name : String
  /-- The key of the tag. -/
  key : String
  /-- The alternatives, in order. -/
  alternatives : List (Alternative α)

namespace Tagged

variable {α : Type}

/-- The alternative that a tag names. -/
def find (t : Tagged α) : Json → Decoded (Alternative α)
  | .string s =>
    match t.alternatives.find? fun a => a.tag == s with
    | some a => .ok a
    | none => .error (.unknownVariant s (t.alternatives.map Alternative.tag))
  | v => mismatch v "variant identifier"

/-- Decodes a tagged value. -/
def decode (t : Tagged α) : Decoder α
  | _, .object members =>
    match Fields.get? members t.key with
    | none => .error (.missingField t.key)
    | some tag => do (← t.find tag).ofMembers (Fields.erase members t.key)
  | _, .array [] => .error (.missingField t.key)
  | _, .array (tag :: items) => do (← t.find tag).ofItems items
  | _, v => mismatch v ("internally tagged enum " ++ t.name)

end Tagged

end NavigationBar.Decode
