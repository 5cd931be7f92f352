import NavigationBar.Config.Action
import NavigationBar.Host.Event

/-!
# Items

What the bar shows: routes, and the entries of their popups. Most fields may hold a template in
place of a plain value, and are kept as they were written.
-/

namespace NavigationBar

/-- A badge on an item. -/
structure Badge where
  /-- An expression over the entities that decides whether the badge shows, in the older form. -/
  template : Option String := none
  /-- Its colour. -/
  color : Option Json := none
  /-- Whether it shows. -/
  show? : Option Json := none
  /-- What it counts. -/
  count : Option Json := none
  /-- The colour of its text. -/
  textColor : Option Json := none
  /-- The same, under its older key. -/
  olderTextColor : Option Json := none
deriving Inhabited

/-- The members that a record has of its optional fields. -/
def presentFields (fields : List (String × Option Json)) : Fields :=
  fields.filterMap fun (k, v) => v.map fun v => (k, v)

namespace Badge

open Decode in
/-- The written form of badges. -/
def record : Record Badge where
  name := "BadgeConfig"
  fields := [
    .of "template" (nullable text) fun b template => { b with template },
    .of "color" (nullable value) fun b color => { b with color },
    .of "show" (nullable value) fun b show? => { b with show? },
    .of "count" (nullable value) fun b count => { b with count },
    .of "text_color" (nullable value) fun b textColor => { b with textColor },
    .of "textColor" (nullable value) fun b olderTextColor => { b with olderTextColor }]
  initial := {}

/-- Decodes a badge. -/
def decode : Decode.Decoder Badge := record.decode

/-- A badge as a JSON value. -/
def toJson (b : Badge) : Json :=
  .object (presentFields [
    ("template", b.template.map .string),
    ("color", b.color),
    ("show", b.show?),
    ("count", b.count),
    ("text_color", b.textColor),
    ("textColor", b.olderTextColor)])

/-- The colour of the text, under either key. -/
def textColorField (b : Badge) : Option Json :=
  b.textColor.or b.olderTextColor

end Badge

/-- An item, as an entry of a popup or as the drawn part of a route. -/
structure Item where
  /-- The page it leads to. -/
  url : Option String := none
  /-- What a tap does. -/
  tapAction : Option Action := none
  /-- What a hold does. -/
  holdAction : Option Action := none
  /-- What a double tap does. -/
  doubleTapAction : Option Action := none
  /-- Its icon. -/
  icon : Option Json := none
  /-- The colour of its icon. -/
  iconColor : Option Json := none
  /-- Its icon while it is selected. -/
  iconSelected : Option Json := none
  /-- Its image. -/
  image : Option Json := none
  /-- Its image while it is selected. -/
  imageSelected : Option Json := none
  /-- Its label. -/
  label : Option Json := none
  /-- Its badge. -/
  badge : Option Badge := none
  /-- Whether it is hidden. -/
  hidden : Option Json := none
  /-- Whether it is selected, in place of what its page says. -/
  selected : Option Json := none
  /-- Its colour while it is selected. -/
  selectedColor : Option Json := none
deriving Inhabited

namespace Item

open Decode in
/-- The written form of items. -/
def record : Record Item where
  name := "ItemBase"
  fields := [
    .of "url" (nullable text) fun i url => { i with url },
    .of "tap_action" (nullable Action.decode) fun i tapAction => { i with tapAction },
    .of "hold_action" (nullable Action.decode) fun i holdAction => { i with holdAction },
    .of "double_tap_action" (nullable Action.decode)
      fun i doubleTapAction => { i with doubleTapAction },
    .of "icon" (nullable value) fun i icon => { i with icon },
    .of "icon_color" (nullable value) fun i iconColor => { i with iconColor },
    .of "icon_selected" (nullable value) fun i iconSelected => { i with iconSelected },
    .of "image" (nullable value) fun i image => { i with image },
    .of "image_selected" (nullable value) fun i imageSelected => { i with imageSelected },
    .of "label" (nullable value) fun i label => { i with label },
    .of "badge" (nullable Badge.decode) fun i badge => { i with badge },
    .of "hidden" (nullable value) fun i hidden => { i with hidden },
    .of "selected" (nullable value) fun i selected => { i with selected },
    .of "selected_color" (nullable value) fun i selectedColor => { i with selectedColor }]
  initial := {}

/-- Decodes an item. -/
def decode : Decode.Decoder Item := record.decode

/-- The members of an item. -/
def toFields (i : Item) : Fields :=
  presentFields [
    ("url", i.url.map .string),
    ("tap_action", i.tapAction.map Action.toJson),
    ("hold_action", i.holdAction.map Action.toJson),
    ("double_tap_action", i.doubleTapAction.map Action.toJson),
    ("icon", i.icon),
    ("icon_color", i.iconColor),
    ("icon_selected", i.iconSelected),
    ("image", i.image),
    ("image_selected", i.imageSelected),
    ("label", i.label),
    ("badge", i.badge.map Badge.toJson),
    ("hidden", i.hidden),
    ("selected", i.selected),
    ("selected_color", i.selectedColor)]

/-- An item as a JSON value. -/
def toJson (i : Item) : Json :=
  .object i.toFields

/-- The action for a gesture. -/
def actionFor (i : Item) : Gesture → Option Action
  | .tap => i.tapAction
  | .hold => i.holdAction
  | .doubleTap => i.doubleTapAction

/-- Whether some gesture has an action. -/
def hasAnyAction (i : Item) : Bool :=
  i.tapAction.isSome || i.holdAction.isSome || i.doubleTapAction.isSome

end Item

/-- A route: an item of the bar, which may have a popup with items of its own. -/
structure Route where
  /-- The item it is drawn as. -/
  item : Item := {}
  /-- The entries of its popup, as a list or as a template for one. -/
  popup : Option Json := none
  /-- The entries of its popup, under their older key. -/
  submenu : Option (List Item) := none
deriving Inhabited

namespace Route

/-- Decodes a route. The popup comes first; the members of the item are set aside until after it. -/
def decode : Decode.Decoder Route
  | o, .object members => do
    let (popup, submenu, rest) ← members.foldlM (fun (popup, submenu, rest) (k, v) =>
      if k = "popup" then return ((← Decode.nullable Decode.value o v), submenu, rest)
      else if k = "submenu" then
        return (popup, (← Decode.nullable (Decode.list Item.decode) o v), rest)
      else return (popup, submenu, rest ++ [(k, v)])) (none, none, ([] : Fields))
    let item ← Item.record.ofMembers .copy rest
    return { item, popup, submenu }
  | _, v => Decode.mismatch v "struct RouteItem"

/-- A route as a JSON value. -/
def toJson (r : Route) : Json :=
  .object (r.item.toFields ++ presentFields [
    ("popup", r.popup),
    ("submenu", r.submenu.map fun items => .array (items.map Item.toJson))])

end Route

end NavigationBar
