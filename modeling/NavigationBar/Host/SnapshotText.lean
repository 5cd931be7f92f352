import NavigationBar.Host.Snapshot
import NavigationBar.Json.Parser

/-!
# Reading a snapshot from a text

A snapshot is decoded while its text is read, so that a value of the wrong type is reported at its
place, and before anything that follows it. A key of a record that stands twice is refused.
-/

namespace NavigationBar

/-- Why a text is no snapshot. -/
inductive SnapshotCause where
  /-- It is no document. -/
  | text (c : Json.SyntaxCause)
  /-- It is the document of something else. -/
  | shape (e : Decode.Error)

/-- The words for a cause. -/
def SnapshotCause.message : SnapshotCause → String
  | text c => c.message
  | shape e => e.message

namespace SnapshotText

/-- A refusal: its cause and what was left of the text. With `ahead`, the fault lies in the first
byte of what was left. -/
structure Refusal where
  /-- What is wrong. -/
  cause : SnapshotCause
  /-- The text that was left. -/
  rest : List Char
  /-- Whether the first byte of `rest` is at fault. -/
  ahead : Bool

/-- Reading, which may be refused. A result comes with the text that is left. -/
abbrev Reading := Except Refusal

/-- A refusal of the document as such. -/
def Refusal.ofText (r : Json.Refusal) : Refusal where
  cause := .text r.cause
  rest := r.rest
  ahead := r.ahead

/-- What reading a part of the document as such gives. -/
def lift {α : Type} (r : Except Json.Refusal α) : Reading α :=
  r.mapError .ofText

/-- A refusal of a value by its type. -/
def refuse {α : Type} (e : Decode.Error) (rest : List Char) : Reading α :=
  .error ⟨.shape e, rest, false⟩

/-- A refusal of the next byte. -/
def refuseNext {α : Type} (c : Json.SyntaxCause) (rest : List Char) : Reading α :=
  .error ⟨.text c, rest, true⟩

/-- The refusal of a value that is not of the expected kind. What has no parts is read first. -/
def mismatch {α : Type} (expected : String) (cs : List Char) : Reading α :=
  match cs with
  | '[' :: _ => refuse (.invalidType .sequence expected) cs
  | '\x7b' :: _ => refuse (.invalidType .map expected) cs
  | _ =>
    match Json.readValue Json.depthLimit (cs.length + 1) cs with
    | .error r => .error (.ofText r)
    | .ok (v, rest) => refuse (.invalidType (.ofJson v) expected) rest

/-- Reads any value. -/
def readAny (depth : Nat) (cs : List Char) : Reading (Json × List Char) :=
  lift (Json.readValue depth (2 * cs.length + 2) cs)

/-- Reads a text. -/
def readText (cs : List Char) : Reading (String × List Char) :=
  match Json.skipSpace cs with
  | [] => refuseNext .eofInValue []
  | '"' :: r => lift (Json.readText r)
  | cs => mismatch "a string" cs

/-- Reads the colon after a key. -/
def readColon (cs : List Char) : Reading (List Char) :=
  match Json.skipSpace cs with
  | [] => refuseNext .eofInObject []
  | ':' :: r => .ok r
  | cs => refuseNext .expectedColon cs

/-- Reads the members of an object up to its closing bracket, the opening one having been read. The
value of each is left to `member`, which gets the key and the text after it. -/
def readMembers {σ : Type} (member : σ → String → List Char → Reading (σ × List Char))
    (first : Bool) (acc : σ) : Nat → List Char → Reading (σ × List Char)
  | 0, cs => refuseNext .eofInObject cs
  | fuel + 1, cs =>
    match Json.skipSpace cs with
    | [] => refuseNext .eofInObject []
    | '\x7d' :: r => .ok (acc, r)
    | c :: r =>
      let next : Reading (List Char) :=
        if first then .ok (c :: r)
        else if c = ',' then
          match Json.skipSpace r with
          | [] => refuseNext .eofInValue []
          | '\x7d' :: r => refuseNext .trailingComma ('\x7d' :: r)
          | r => .ok r
        else refuseNext .expectedObjectCommaOrEnd (c :: r)
      match next with
      | .error e => .error e
      | .ok ('"' :: cs) =>
        match lift (Json.readText cs) with
        | .error e => .error e
        | .ok (k, rest) =>
          match member acc k rest with
          | .error e => .error e
          | .ok (acc, rest) => readMembers member false acc fuel rest
      | .ok cs => refuseNext .keyMustBeString cs

/-- Reads an object. -/
def readObject {σ : Type} (expected : String) (depth : Nat) (start : σ)
    (member : σ → String → List Char → Reading (σ × List Char)) (cs : List Char) :
    Reading (σ × List Char) :=
  match Json.skipSpace cs with
  | [] => refuseNext .eofInValue []
  | '\x7b' :: r =>
    if depth ≤ 1 then refuseNext .recursionLimit ('\x7b' :: r)
    else readMembers member true start (r.length + 1) r
  | cs => mismatch expected cs

/-- Reads members of any kind. -/
def readFields (depth : Nat) (cs : List Char) : Reading (Fields × List Char) :=
  readObject "a map" depth ([] : Fields) (fun fields key rest => do
    let rest ← readColon rest
    let (v, rest) ← readAny (depth - 1) rest
    return (fields.set key v, rest)) cs

/-! ## Entities -/

/-- Reads the value of a field of an entity. -/
abbrev EntityReader := Nat → Entity → List Char → Reading (Entity × List Char)

/-- A field that is a text. -/
def textField (keep : Entity → String → Entity) : EntityReader := fun _ e cs => do
  let (s, rest) ← readText cs
  return (keep e s, rest)

/-- The fields of an entity, in their order. -/
def entityFields : List (String × EntityReader) := [
  ("entity_id", textField fun e id => { e with id }),
  ("state", textField fun e state => { e with state }),
  ("attributes", fun depth e cs => do
    let (attributes, rest) ← readFields (depth - 1) cs
    return ({ e with attributes }, rest)),
  ("last_changed", textField fun e lastChanged => { e with lastChanged }),
  ("last_updated", textField fun e lastUpdated => { e with lastUpdated })]

/-- Reads the fields of an entity that is written as a list, up to the closing bracket. -/
def readItems (depth : Nat) (first : Bool) (e : Entity) :
    List EntityReader → List Char → Reading (Entity × List Char)
  | [], cs =>
    match Json.skipSpace cs with
    | [] => refuseNext .eofInList []
    | ']' :: r => .ok (e, r)
    | ',' :: r =>
      match Json.skipSpace r with
      | ']' :: r => refuseNext .trailingComma (']' :: r)
      | r => refuseNext .trailingCharacters r
    | cs => refuseNext .trailingCharacters cs
  | field :: fields, cs =>
    match Json.skipSpace cs with
    | [] => refuseNext .eofInList []
    | ']' :: r => .ok (e, r)
    | c :: r =>
      let next : Reading (List Char) :=
        if first then .ok (c :: r)
        else if c = ',' then
          match Json.skipSpace r with
          | [] => refuseNext .eofInValue []
          | ']' :: r => refuseNext .trailingComma (']' :: r)
          | r => .ok r
        else refuseNext .expectedListCommaOrEnd (c :: r)
      match next with
      | .error e => .error e
      | .ok cs =>
        match field depth e cs with
        | .error e => .error e
        | .ok (e, rest) => readItems depth false e fields rest

/-- Reads a member of an entity; `seen` holds the fields that were read before. -/
def readEntityMember (depth : Nat) (acc : Entity × List String) (key : String) (cs : List Char) :
    Reading ((Entity × List String) × List Char) :=
  match entityFields.lookup key with
  | some field =>
    if acc.2.contains key then refuse (.duplicateField key) (Json.skipSpace cs)
    else do
      let rest ← readColon cs
      let (e, rest) ← field depth acc.1 rest
      return ((e, key :: acc.2), rest)
  | none => do
    let rest ← readColon cs
    let (_, rest) ← readAny (depth - 1) rest
    return (acc, rest)

/-- Reads an entity. -/
def readEntity (depth : Nat) (cs : List Char) : Reading (Entity × List Char) :=
  match Json.skipSpace cs with
  | '[' :: r =>
    if depth ≤ 1 then refuseNext .recursionLimit ('[' :: r)
    else readItems depth true {} (entityFields.map Prod.snd) r
  | cs => do
    let (acc, rest) ←
      readObject "struct EntityState" depth (({} : Entity), ([] : List String))
        (readEntityMember depth) cs
    return (acc.1, rest)

/-! ## Snapshots -/

/-- Reads a member of a snapshot. -/
def readMember (depth : Nat) (acc : Snapshot × List String) (key : String) (cs : List Char) :
    Reading ((Snapshot × List String) × List Char) :=
  let (s, seen) := acc
  if ["states", "user", "current_path"].contains key && seen.contains key then
    refuse (.duplicateField key) (Json.skipSpace cs)
  else do
    let rest ← readColon cs
    let depth := depth - 1
    if key = "states" then
      let (entities, rest) ← readObject "a map" depth s.entities (fun entities id rest => do
        let rest ← readColon rest
        let (e, rest) ← readEntity (depth - 1) rest
        return (Snapshot.insertEntity id e entities, rest)) rest
      return (({ s with entities }, key :: seen), rest)
    else if key = "user" then
      let (user, rest) ← readAny depth rest
      return (({ s with user }, key :: seen), rest)
    else if key = "current_path" then
      let (path, rest) ← readText rest
      return (({ s with path }, key :: seen), rest)
    else
      let (v, rest) ← readAny depth rest
      return (({ s with extra := s.extra.set key v }, key :: seen), rest)

/-- Reads a snapshot with nothing but blanks around it. -/
def read (cs : List Char) : Reading Snapshot := do
  let (acc, rest) ←
    readObject "struct AppState" Json.depthLimit (({} : Snapshot), ([] : List String))
      (readMember Json.depthLimit) cs
  match Json.skipSpace rest with
  | [] => .ok acc.1
  | rest => refuseNext .trailingCharacters rest

end SnapshotText

/-- Reads a snapshot from a text. -/
def Snapshot.parse (source : String) : Except (SnapshotCause × Json.Place) Snapshot :=
  let cs := source.toList
  (SnapshotText.read cs).mapError fun r => (r.cause, Json.placeOf cs r.rest r.ahead)

end NavigationBar
