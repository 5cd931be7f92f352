import NavigationBar.Host.Entity

/-!
# Host snapshots

What the host tells about itself: its entities, its user, the path of the page it shows, and
whatever else it has under other keys, which is kept as it is.
-/

namespace NavigationBar

/-- The state of the host at one time. -/
structure Snapshot where
  /-- The entities, in the order of their identifiers. -/
  entities : List (String × Entity) := []
  /-- The user, in any form. -/
  user : Json := .null
  /-- The path of the page that is shown. -/
  path : String := ""
  /-- What else the host tells, by key. -/
  extra : Fields := []
deriving Inhabited

namespace Snapshot

/-- Decodes one member of a snapshot. -/
def put (s : Snapshot) (key : String) (v : Json) : Decoded Snapshot :=
  if key = "states" then
    (Decode.dictionary Entity.decode .document v).map fun entities => { s with entities }
  else if key = "user" then .ok { s with user := v }
  else if key = "current_path" then
    (Decode.text .document v).map fun path => { s with path }
  else .ok { s with extra := s.extra.set key v }

/-- Decodes a snapshot. -/
def decode : Decode.Decoder Snapshot
  | _, .object members => members.foldlM (fun s (k, v) => s.put k v) {}
  | _, v => Decode.mismatch v "struct AppState"

/-- The entities as a JSON value. -/
def entitiesJson (s : Snapshot) : Json :=
  .object (s.entities.map fun (id, e) => (id, e.toJson))

/-- A snapshot as a JSON value. -/
def toJson (s : Snapshot) : Json :=
  .object (((s.extra.set "states" s.entitiesJson).set "user" s.user).set "current_path"
    (.string s.path))

/-- The entity under an identifier. -/
def entity? (s : Snapshot) (id : String) : Option Entity :=
  s.entities.lookup id

/-- The entities with one put under an identifier, in the order of the identifiers. -/
def insertEntity (id : String) (e : Entity) : List (String × Entity) → List (String × Entity)
  | [] => [(id, e)]
  | (k, v) :: rest =>
    if id = k then (id, e) :: rest
    else if id < k then (id, e) :: (k, v) :: rest
    else (k, v) :: insertEntity id e rest

/-- A snapshot with an entity put under its own identifier. -/
def withEntity (s : Snapshot) (e : Entity) : Snapshot :=
  { s with entities := insertEntity e.id e s.entities }

end Snapshot

/-- How the bar is laid out. -/
structure Layout where
  /-- Whether the viewport is wide enough for the desktop layout. -/
  isDesktop : Bool := false
deriving DecidableEq, Repr, Inhabited

namespace Layout

open Decode in
/-- The written form of layouts. -/
def record : Record Layout where
  name := "WidgetState"
  fields := [(Field.of "isDesktop" flag fun _ isDesktop => { isDesktop }).needed .required]
  initial := {}

/-- Decodes a layout. -/
def decode : Decode.Decoder Layout := record.decode

/-- A layout as a JSON value. -/
def toJson (l : Layout) : Json :=
  .object [("isDesktop", .bool l.isDesktop)]

end Layout

end NavigationBar
