import NavigationBar.Decode.Record

/-!
# Entities

The things the dashboard shows: lights, sensors, players. Each has a state, a text, and attributes
of any kind.
-/

namespace NavigationBar

/-- An entity, as the host reports it. -/
structure Entity where
  /-- Its identifier. -/
  id : String := ""
  /-- Its state. -/
  state : String := ""
  /-- Its attributes by name. -/
  attributes : Fields := []
  /-- When the state last changed, as the host writes it. -/
  lastChanged : String := ""
  /-- When the entity was last updated, as the host writes it. -/
  lastUpdated : String := ""
deriving Inhabited

namespace Entity

open Decode in
/-- The written form of entities. -/
def record : Record Entity where
  name := "EntityState"
  fields := [
    .of "entity_id" text fun e id => { e with id },
    .of "state" text fun e state => { e with state },
    .of "attributes" members fun e attributes => { e with attributes },
    .of "last_changed" text fun e lastChanged => { e with lastChanged },
    .of "last_updated" text fun e lastUpdated => { e with lastUpdated }]
  initial := {}

/-- Decodes an entity. -/
def decode : Decode.Decoder Entity := record.decode

/-- An entity as a JSON value. -/
def toJson (e : Entity) : Json :=
  .object [
    ("attributes", .object e.attributes),
    ("entity_id", .string e.id),
    ("last_changed", .string e.lastChanged),
    ("last_updated", .string e.lastUpdated),
    ("state", .string e.state)]

/-- An entity with one more attribute. -/
def withAttribute (e : Entity) (name : String) (value : Json) : Entity :=
  { e with attributes := e.attributes.set name value }

/-- The numeric value of an attribute. -/
def number? (e : Entity) (name : String) : Option Float :=
  (e.attributes.get? name).bind Json.float?

end Entity

end NavigationBar
