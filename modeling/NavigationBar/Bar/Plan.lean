import NavigationBar.Bar.Popup
import NavigationBar.Config.Look
import NavigationBar.Template.Resolve

/-!
# Plans

What an action does, worked out before any of it is done: a list of effects, and the failure in
which it may end. Every action stops the ripple of its element first, and closes the popup of its
route unless it opens one.
-/

namespace NavigationBar

/-- A place on the bar where gestures are met. -/
inductive Place where
  /-- A route. -/
  | route (index : Nat)
  /-- An entry of the popup of a route. -/
  | entry (route index : Nat)
  /-- The media player. -/
  | player
deriving DecidableEq, Repr, Inhabited

/-- A place in words. -/
def Place.words : Place → String
  | route i => "route " ++ toString i
  | entry r i => "popup item " ++ toString i ++ " of route " ++ toString r
  | player => "media player"

/-- Why an action fails. -/
inductive ActionFault where
  /-- The popup of the route has no entries. -/
  | noEntries (route : Nat)
  /-- The template of the action fails. -/
  | template (f : Template.Failure)
  /-- The host does not listen. -/
  | hostGone
  /-- There is nothing at the place. -/
  | nothingAt (p : Place)

/-- The words for a failure. -/
def ActionFault.message : ActionFault → String
  | noEntries r => "no popup items found for route " ++ toString r
  | template f => "template error: " ++ f.message
  | hostGone => "host channel closed"
  | nothingAt p => "unknown item: " ++ p.words

/-- What an action belongs to. -/
inductive Owner where
  /-- A route, with its page and the number of the entries of its popup. -/
  | route (index : Nat) (url : Option String) (entries : Nat)
  /-- An entry of the popup of a route, with its page. -/
  | entry (route index : Nat) (url : Option String)
  /-- Neither. -/
  | widget
deriving DecidableEq, Repr, Inhabited

namespace Owner

/-- The route whose popup goes with an owner. -/
def popupRoute? : Owner → Option Nat
  | route i _ _ => some i
  | entry r _ _ => some r
  | widget => none

/-- The page of an owner. -/
def url? : Owner → Option String
  | route _ url _ => url
  | entry _ _ url => url
  | widget => none

end Owner

/-- The occasion of an action. -/
structure Occasion where
  /-- The element that the gesture met. -/
  target : Target
  /-- What the action belongs to. -/
  owner : Owner
  /-- The gesture. -/
  gesture : Gesture
deriving Inhabited

/-- What an action does. -/
structure Plan where
  /-- What it brings about. -/
  effects : List Effect
  /-- How it ends once all of that was brought about. -/
  outcome : Except ActionFault Unit := .ok ()

namespace Plan

/-- How long an action of the host waits, so that it follows the events of its gesture. -/
def hostDelay : Nat := 10

/-- A vibration, where one is asked for. -/
def vibration (h : Option Haptics) (g : Gesture) (isNavigation : Bool) : List Effect :=
  if Haptics.applies h g isNavigation then [.send .haptic] else []

/-- What the host is told about an action of its own: the action under the key of the gesture, and
the entity that it acts on. -/
def hostConfig (g : Gesture) (fields : Fields) (entity : Option String) : Json :=
  let config : Fields := [(g.actionKey, .object fields)]
  .object (match entity with
    | some id => config.set "entity" (.string id)
    | none => config)

/-- What happens where no action is configured: a tap leads to the page. -/
def ofNothing (h : Option Haptics) (o : Occasion) : Plan where
  effects := match o.owner.url?, o.gesture with
    | some path, .tap => vibration h .tap true ++ [.send (.navigate path)]
    | _, _ => []

/-- What an action of the bar's own does. -/
def ofOwn (h : Option Haptics) (current : Option Nat) (c : Template.Context) (o : Occasion) :
    OwnAction → Plan
  | .openPopup =>
    match o.owner with
    | .route index _ entries =>
      if entries = 0 then { effects := [], outcome := .error (.noEntries index) }
      else { effects := vibration h o.gesture false ++ Popup.opening current index o.target }
    | _ => { effects := [] }
  | .navigateBack => { effects := vibration h o.gesture true ++ [.send .historyBack] }
  | .toggleMenu => { effects := vibration h o.gesture false ++ [.send .toggleMenu] }
  | .showNotifications => { effects := vibration h o.gesture false ++ [.send .showNotifications] }
  | .quickbar mode =>
    { effects := vibration h o.gesture false ++ [.send (.keyDown (OwnAction.quickbarKey mode))] }
  | .openEditMode => { effects := vibration h o.gesture false ++ [.send .forceEditMode] }
  | .logout => { effects := vibration h o.gesture false ++ [.send .logout] }
  | .runScript code =>
    { effects := vibration h o.gesture false
      outcome := match Template.evaluate c (.string code) .statement with
        | .ok _ => .ok ()
        | .error f => .error (.template f) }

/-- What an action of the host's own does. -/
def ofHost (h : Option Haptics) (o : Occasion) (a : Action) : Plan where
  effects := vibration h o.gesture false ++
    [.sendLater hostDelay (.action o.gesture (hostConfig o.gesture a.toFields a.entity?) a.entity?)]

/-- What comes before an action. -/
def opening (current : Option Nat) (a : Option Action) (o : Occasion) : List Effect :=
  .send (.resetRipple o.target) ::
    if a.any Action.isOpenPopup then []
    else (o.owner.popupRoute?.map (Popup.close current)).getD []

/-- What an action does on an occasion, while the popup of `current` may be open. -/
def of (h : Option Haptics) (current : Option Nat) (c : Template.Context) (a : Option Action)
    (o : Occasion) : Plan :=
  let body := match a with
    | none => ofNothing h o
    | some (.own own) => ofOwn h current c o own
    | some (.host fields) => ofHost h o (.host fields)
  { body with effects := opening current a o ++ body.effects }

end Plan

end NavigationBar
