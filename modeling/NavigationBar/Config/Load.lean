import NavigationBar.Config.Basic
import NavigationBar.Config.Excerpt
import NavigationBar.Config.Ron
import NavigationBar.Json.Merge
import NavigationBar.Json.Parser

/-!
# Loading a configuration

A document is read as RON when its path says so and as JSON otherwise, laid over the template that
it names, decoded, and checked: every route needs something to draw and something to do.
-/

namespace NavigationBar

/-- What a route lacks. -/
inductive RouteFault where
  /-- Neither an icon nor an image. -/
  | nothingToDraw
  /-- No page, no popup and no action. -/
  | nothingToDo
deriving DecidableEq, Repr

namespace RouteFault

/-- The words for a fault. -/
def message : RouteFault → String
  | nothingToDraw => "each route must have either an \"icon\" or \"image\" property configured"
  | nothingToDo =>
    "each route must have at least one actionable property " ++
      "(url, popup, tap_action, hold_action, double_tap_action)"

end RouteFault

/-- What a route lacks, if anything; drawing comes first. -/
def Route.fault? (r : Route) : Option RouteFault :=
  if r.item.icon.isNone && r.item.image.isNone then some .nothingToDraw
  else if !(r.popup.isSome || r.submenu.isSome) && r.item.url.isNone && !r.item.hasAnyAction then
    some .nothingToDo
  else none

/-- Why a document is no valid configuration. -/
inductive InvalidConfig where
  /-- It does not decode. -/
  | decode (e : Decode.Error)
  /-- A route lacks something. -/
  | route (index : Nat) (fault : RouteFault)
deriving DecidableEq

/-- The words for the reason. -/
def InvalidConfig.message : InvalidConfig → String
  | decode e => e.message
  | route i fault => "route " ++ toString i ++ ": " ++ fault.message

/-- The first route that lacks something, counted from `i`. -/
def firstFault? (i : Nat) : List Route → Option (Nat × RouteFault)
  | [] => none
  | r :: rs =>
    match r.fault? with
    | some fault => some (i, fault)
    | none => firstFault? (i + 1) rs

/-- Decodes and checks a configuration. -/
def Config.ofJson (v : Json) : Except InvalidConfig Config :=
  match Config.decode .document v with
  | .error e => .error (.decode e)
  | .ok c =>
    match firstFault? 0 c.routes with
    | some (i, fault) => .error (.route i fault)
    | none => .ok c

/-- Why a configuration cannot be loaded. -/
inductive LoadError where
  /-- The file cannot be read. -/
  | read (path : Option String) (reason : String)
  /-- The document is no JSON, for a cause and at a place. -/
  | json (path : Option String) (cause : Json.SyntaxCause) (place : Json.Place) (source : String)
  /-- The document is no RON. -/
  | ron (path : Option String)
  /-- The document is no valid configuration. -/
  | invalid (path : Option String) (reason : InvalidConfig)

namespace LoadError

/-- The path of the document. -/
def path? : LoadError → Option String
  | read p _ => p
  | json p _ _ _ => p
  | ron p => p
  | invalid p _ => p

/-- The words for an error, without its place. No words are kept for why a document is no RON. -/
def message : LoadError → String
  | read _ reason => reason
  | json _ cause _ _ => cause.message
  | ron _ => ""
  | invalid _ reason => reason.message

/-- The lines of the document around the place of an error. -/
def excerpt? : LoadError → Option String
  | json _ _ place source => some (excerpt source place.line place.column)
  | _ => none

/-- A path with the word before it. -/
def pathWords (before : String) : Option String → String
  | none => ""
  | some p => before ++ p

/-- An error for people to read, with its place and an excerpt. -/
def pretty : LoadError → String
  | read p reason => "Read error" ++ pathWords " at " p ++ ": " ++ reason
  | json p cause place source =>
    "Config parse error at " ++ pathWords "" (p.map (· ++ ":")) ++ toString place.line ++ ":"
      ++ toString place.column ++ "\n" ++ cause.message ++ "\n"
      ++ excerpt source place.line place.column
  | ron p => "Config parse error" ++ pathWords " at " p
  | invalid p reason => "Config validation error" ++ pathWords " at " p ++ "\n" ++ reason.message

end LoadError

/-- The last part of a path that names something: empty parts and the parts `.` only stay in
place. -/
def fileName (path : String) : List Char :=
  ((path.toList.splitOn '/').filter fun part => part != [] && part != ['.']).getLast?.getD []

/-- The ending of the names of RON files. -/
def ronEnding : List Char :=
  ['.', 'r', 'o', 'n']

/-- Whether the name of a file ends in `.ron`, with something before it. -/
def isRonPath (path : String) : Bool :=
  let name := fileName path
  ronEnding.isSuffixOf name && name != ronEnding

/-- Reads a document as the value it denotes. -/
def readDocument (source : String) (path : Option String) : Except LoadError Json :=
  if path.any isRonPath then
    match Ron.parse? source with
    | some v => .ok v
    | none => .error (.ron path)
  else
    match Json.parse source with
    | .ok v => .ok v
    | .error (cause, place) => .error (.json path cause place source)

/-- A document laid over the template that it names, if there is one of that name. -/
def applyTemplate (v : Json) (templates : Option Fields) : Json :=
  match v, templates with
  | .object members, some templates =>
    match Fields.get? members "template" with
    | some (.string name) =>
      match templates.get? name with
      | some base => base.merge v
      | none => v
    | _ => v
  | _, _ => v

namespace Config

/-- Decodes and checks a configuration from a document at a path. -/
def ofDocument (v : Json) (path : Option String) : Except LoadError Config :=
  (ofJson v).mapError (.invalid path)

/-- Loads a configuration from the text of a document. -/
def load (source : String) (path : Option String) (templates : Option Fields) :
    Except LoadError Config := do
  let v ← readDocument source path
  ofDocument (applyTemplate v templates) path

end Config

end NavigationBar
