import NavigationBar.Config.Item
import NavigationBar.Display.Address
import NavigationBar.Template.Resolve

/-!
# Drawn items

How routes and the entries of their popups look: every field that may be a template is resolved.
Drawing never fails; a field whose template fails is drawn as it was written, or not at all.
-/

namespace NavigationBar

/-- A badge as it is drawn. -/
structure DrawnBadge where
  /-- What it counts; a badge that counts nothing is a dot. -/
  count : Option Json
  /-- Its colour. -/
  color : String
  /-- The colour of its text. -/
  textColor : Option String
deriving Inhabited

/-- An item as it is drawn. -/
structure DrawnItem where
  /-- Whether it is hidden. -/
  isHidden : Bool
  /-- Whether it is selected. -/
  isActive : Bool
  /-- Its label, where labels are drawn. -/
  label : Option String
  /-- Its icon. -/
  icon : Option String
  /-- Its image. -/
  image : Option String
  /-- The colour of its icon. -/
  iconColor : Option String
  /-- Its colour while it is selected. -/
  selectedColor : Option String
  /-- Its badge, if it shows. -/
  badge : Option DrawnBadge
deriving Inhabited

/-- A route as it is drawn. -/
structure DrawnRoute where
  /-- Its item. -/
  item : DrawnItem
  /-- The entries of its popup. -/
  entries : List DrawnItem
deriving Inhabited

/-- Whether a route or an entry of its popup is selected. -/
def DrawnRoute.isActive (r : DrawnRoute) : Bool :=
  r.item.isActive || r.entries.any DrawnItem.isActive

namespace Template

/-- The text of a field that is left out if it is empty. -/
def text? (c : Context) (v : Json) : Option String :=
  match resolve c v with
  | .null => none
  | .string s => if s = "" then none else some s
  | other => some other.compact

end Template

/-- What a popup holds: the value of its template, or else the list that was written. -/
def Route.entries (r : Route) (c : Template.Context) : List Item :=
  let items := Decode.list Item.decode
  match r.popup with
  | some (.array vs) => (items .document (.array vs)).toOption.getD []
  | some v =>
    if Template.isTemplate v then (Template.evaluateAs items c v).toOption.getD []
    else r.submenu.getD []
  | none => r.submenu.getD []

namespace Item

/-- Whether an item is selected: by its own condition, or else because its page is shown. -/
def isActive (i : Item) (c : Template.Context) (path : String) : Bool :=
  match i.selected with
  | some condition => Template.resolveFlag c condition
  | none => i.url.any fun url => Address.leadsTo url.toList path.toList

/-- Whether an item is hidden. -/
def isHidden (i : Item) (c : Template.Context) : Bool :=
  i.hidden.any (Template.resolveFlag c)

end Item

namespace Badge

/-- The colour of a badge that has none of its own. -/
def defaultColor : String := "red"

/-- Whether a badge shows. -/
def isShown (b : Badge) (c : Template.Context) : Bool :=
  match b.show?, b.template with
  | some condition, _ => Template.resolveFlag c condition
  | none, some expression => Template.badgeHolds c expression
  | none, none => false

/-- A badge as it is drawn, if it shows. -/
def draw (b : Badge) (c : Template.Context) : Option DrawnBadge :=
  if b.isShown c then
    some {
      count := (b.count.map (Template.resolve c)).filter fun v => !v.isNull
      color := (b.color.bind (Template.text? c)).getD defaultColor
      textColor := b.textColorField.bind (Template.text? c) }
  else none

end Badge

/-- An item as it is drawn. The icon and the image of a selected item may be different ones. Where
labels are drawn an item without one has a blank. -/
def Item.draw (i : Item) (c : Template.Context) (path : String) (hasLabel : Bool) : DrawnItem :=
  let isActive := i.isActive c path
  let pick (selected normal : Option Json) : Option String :=
    (if isActive then selected.or normal else normal).bind (Template.text? c)
  { isHidden := i.isHidden c
    isActive
    label := if hasLabel then some ((i.label.bind (Template.text? c)).getD " ") else none
    icon := pick i.iconSelected i.icon
    image := pick i.imageSelected i.image
    iconColor := i.iconColor.bind (Template.text? c)
    selectedColor := i.selectedColor.bind (Template.text? c)
    badge := i.badge.bind fun b => b.draw c }

/-- A route as it is drawn. -/
def Route.draw (r : Route) (c : Template.Context) (path : String) (routeLabels entryLabels : Bool) :
    DrawnRoute where
  item := r.item.draw c path routeLabels
  entries := (r.entries c).map fun i => i.draw c path entryLabels

end NavigationBar
