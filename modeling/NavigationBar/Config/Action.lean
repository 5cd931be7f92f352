import NavigationBar.Decode.Tagged

/-!
# Actions

What a gesture on an item does. The bar carries out a few actions itself; all others belong to the
host and are kept as the objects they were written as, with every field.
-/

namespace NavigationBar

/-- What the quick bar searches. -/
inductive QuickbarMode where
  /-- Devices. -/
  | devices
  /-- Entities. -/
  | entities
  /-- Commands. -/
  | commands
deriving DecidableEq, Repr

namespace QuickbarMode

/-- The name of a mode. -/
def name : QuickbarMode → String
  | devices => "devices"
  | entities => "entities"
  | commands => "commands"

/-- The key that opens the quick bar in a mode. -/
def key : QuickbarMode → Char
  | devices => 'd'
  | entities => 'e'
  | commands => 'c'

/-- Decodes a mode. -/
def decode : Decode.Decoder QuickbarMode :=
  Decode.name [("devices", devices), ("entities", entities), ("commands", commands)]

end QuickbarMode

/-- An action that the bar carries out itself. -/
inductive OwnAction where
  /-- Open the popup of the route. -/
  | openPopup
  /-- Go back to the page before. -/
  | navigateBack
  /-- Show the notifications. -/
  | showNotifications
  /-- Show or hide the side menu. -/
  | toggleMenu
  /-- Open the quick bar. -/
  | quickbar (mode : Option QuickbarMode)
  /-- Edit the dashboard. -/
  | openEditMode
  /-- Log the user out. -/
  | logout
  /-- Run a template for its effects. -/
  | runScript (code : String)
deriving DecidableEq, Repr

namespace OwnAction

/-- The tag of an action. -/
def tag : OwnAction → String
  | openPopup => "open-popup"
  | navigateBack => "navigate-back"
  | showNotifications => "show-notifications"
  | toggleMenu => "toggle-menu"
  | quickbar _ => "quickbar"
  | openEditMode => "open-edit-mode"
  | logout => "logout"
  | runScript _ => "custom-js-action"

/-- The tags of the bar's own actions. -/
def tags : List String :=
  ["open-popup", "navigate-back", "show-notifications", "toggle-menu", "quickbar",
    "open-edit-mode", "logout", "custom-js-action"]

theorem tag_mem_tags (a : OwnAction) : a.tag ∈ tags := by
  cases a <;> simp [tag, tags]

open Decode in
/-- The written form of the bar's own actions. -/
def tagged : Tagged OwnAction where
  name := "CustomAction"
  key := "action"
  alternatives := [
    .plain "open-popup" openPopup,
    .plain "navigate-back" navigateBack,
    .plain "show-notifications" showNotifications,
    .plain "toggle-menu" toggleMenu,
    .fields "quickbar"
      { name := "CustomAction::Quickbar"
        fields := [.of "mode" (nullable QuickbarMode.decode) fun _ m => m]
        initial := none }
      quickbar,
    .plain "open-edit-mode" openEditMode,
    .plain "logout" logout,
    .fields "custom-js-action"
      { name := "CustomAction::CustomJsAction"
        fields := [(Field.of "code" text fun _ c => c).needed .required]
        initial := "" }
      runScript]

/-- An action as members, the tag first. -/
def toFields : OwnAction → Fields
  | quickbar (some mode) => [("action", .string "quickbar"), ("mode", .string mode.name)]
  | runScript code => [("action", .string "custom-js-action"), ("code", .string code)]
  | a => [("action", .string a.tag)]

/-- What an action holds besides its tag, as members. -/
def details : OwnAction → Fields
  | quickbar (some mode) => [("mode", .string mode.name)]
  | runScript code => [("code", .string code)]
  | _ => []

/-- The key that opens the quick bar; commands are searched unless something else is asked for. -/
def quickbarKey (mode : Option QuickbarMode) : Char :=
  match mode with
  | none => 'c'
  | some m => m.key

end OwnAction

/-- An action for a gesture. -/
inductive Action where
  /-- One of the bar's own. -/
  | own (a : OwnAction)
  /-- One of the host's, as it was written. -/
  | host (fields : Fields)
deriving Inhabited

namespace Action

/-- Decodes an action from its members. -/
def ofMembers (members : Fields) : Decoded Action :=
  match members.get? "action" with
  | some (.string tag) =>
    if OwnAction.tags.contains tag then
      match OwnAction.tagged.decode .document (.object members) with
      | .ok a => .ok (own a)
      | .error e => .error (.invalidAction tag e)
    else .ok (host members)
  | _ => .error .missingAction

/-- Decodes an action. -/
def decode : Decode.Decoder Action
  | _, .object members => ofMembers members
  | _, v => Decode.mismatch v "a map"

/-- The members of an action. -/
def toFields : Action → Fields
  | own a => a.toFields
  | host fields => fields

/-- An action as a JSON value. -/
def toJson (a : Action) : Json :=
  .object a.toFields

/-- An action as a document holds it: written member by member, an action of the bar's own with its
tag before its details. -/
def serialized : Action → Json
  | own a => .object (Fields.ofList (("action", .string a.tag) :: a.details))
  | host fields => (Json.object fields).sorted

/-- The host action that has a tag and nothing else. -/
def ofTag (tag : String) : Action :=
  host [("action", .string tag)]

/-- The tag of an action. -/
def tag (a : Action) : String :=
  match a.toFields.get? "action" with
  | some (.string s) => s
  | _ => ""

/-- Whether an action opens a popup. -/
def isOpenPopup : Action → Bool
  | own .openPopup => true
  | _ => false

/-- The tags of the host actions that name the entity they act on. -/
def entityTags : List String := ["more-info", "toggle"]

/-- Whether an action acts on an entity that it names. -/
def needsEntity : Action → Bool
  | own _ => false
  | host fields =>
    match fields.get? "action" with
    | some (.string s) => entityTags.contains s
    | _ => false

/-- The entity that an action acts on, under `entity` or else `entity_id`. -/
def entity? (a : Action) : Option String :=
  match a with
  | own _ => none
  | host fields =>
    if a.needsEntity then ((fields.get? "entity").or (fields.get? "entity_id")).bind Json.string?
    else none

end Action

end NavigationBar
