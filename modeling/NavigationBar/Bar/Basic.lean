import NavigationBar.Bar.Executor
import NavigationBar.Config.Load
import NavigationBar.Display.Item
import NavigationBar.Display.Player
import NavigationBar.Gesture.Detector

/-!
# The bar

A bar shows what its configuration asks for and what the host tells, and does what is configured for
the gestures on its places. Gestures are looked up in the configuration of the moment.
-/

namespace NavigationBar

/-- A bar. -/
structure Bar where
  /-- Its configuration. -/
  config : Config
  /-- The state of its host. -/
  snapshot : Snapshot := {}
  /-- The width of its viewport. -/
  width : Nat := 0
  /-- Whether the dashboard is being edited. -/
  isEdited : Bool := false
  /-- What carries its actions out. -/
  executor : Executor := {}
deriving Inhabited

namespace Bar

/-- A new bar. -/
def ofConfig (config : Config) : Bar where
  config := config
  executor := { haptics := config.haptics }

/-! ## What it shows -/

/-- Its layout. -/
def layout (b : Bar) : Layout where
  isDesktop := b.config.isDesktop b.width

/-- What its templates see. -/
def context (b : Bar) : Template.Context :=
  .ofSnapshot b.snapshot b.layout

/-- The route whose popup is open. -/
def openRoute (b : Bar) : Option Nat :=
  b.executor.openRoute

/-- Whether it is hidden. It never is while the dashboard is being edited. -/
def isHidden (b : Bar) : Bool :=
  !b.isEdited && (b.config.hiddenField b.layout).any (Template.resolveFlag b.context)

/-- Its routes as they are drawn. -/
def drawnRoutes (b : Bar) : List DrawnRoute :=
  let labels := b.config.labels b.layout
  b.config.routes.map fun r =>
    r.draw b.context b.snapshot.path labels.onRoutes labels.onEntries

/-- Whether its media player shows. -/
def playerStatus (b : Bar) : PlayerStatus :=
  .of b.config.player b.snapshot b.layout b.context

/-- The entries of the popup of a route. -/
def entries (b : Bar) (route : Nat) : List Item :=
  match b.config.routes[route]? with
  | some r => r.entries b.context
  | none => []

/-! ## What gestures do -/

/-- For which gestures on a place something is bound. A tap on anything that exists counts. -/
def bindings (b : Bar) (p : Place) : Bindings :=
  match p with
  | .route i => ofItem ((b.config.routes[i]?).map Route.item)
  | .entry r i => ofItem (b.entries r)[i]?
  | .player =>
    match b.config.player with
    | some p => ⟨true, p.holdAction.isSome, p.doubleTapAction.isSome⟩
    | none => {}
where
  /-- For which gestures on an item something is bound. -/
  ofItem : Option Item → Bindings
    | some i => ⟨true, i.holdAction.isSome, i.doubleTapAction.isSome⟩
    | none => {}

/-- The action for a gesture on a place, and what the action belongs to. -/
def lookup (b : Bar) (p : Place) (g : Gesture) : Except ActionFault (Option Action × Owner) :=
  match p with
  | .route i =>
    match b.config.routes[i]? with
    | some r => .ok (r.item.actionFor g, .route i r.item.url (r.entries b.context).length)
    | none => .error (.nothingAt p)
  | .entry r i =>
    match (b.entries r)[i]? with
    | some e => .ok (e.actionFor g, .entry r i e.url)
    | none => .error (.nothingAt p)
  | .player =>
    match b.config.player with
    | some player => .ok (player.actionOn b.context g, .widget)
    | none => .error (.nothingAt p)

/-- A bar after something was carried out. -/
def after (b : Bar) (r : Executor × Except ActionFault Unit) : Bar × Except ActionFault Unit :=
  ({ b with executor := r.1 }, r.2)

/-- Does what a gesture on a place does. -/
def dispatch (b : Bar) (p : Place) (g : Gesture) (target : Target) :
    Bar × Except ActionFault Unit :=
  match b.lookup p g with
  | .error f => (b, .error f)
  | .ok (action, owner) =>
    b.after (b.executor.execute b.context action { target, owner, gesture := g })

/-- Closes whichever popup is open. -/
def closePopup (b : Bar) : Bar × Except ActionFault Unit :=
  b.after b.executor.closeAnyPopup

/-- Plays what the media player shows, or pauses it. -/
def playPause (b : Bar) : Bar × Except ActionFault Unit :=
  match b.playerStatus with
  | .visible id =>
    b.after (b.executor.perform
      { effects := ((b.snapshot.entity? id).map fun e => Effect.send (Player.playPause e)).toList })
  | _ => (b, .ok ())

/-- Skips to the next track of the media player that shows. -/
def nextTrack (b : Bar) : Bar × Except ActionFault Unit :=
  match b.playerStatus with
  | .visible id => b.after (b.executor.perform { effects := [.send (Player.nextTrack id)] })
  | _ => (b, .ok ())

/-! ## What changes it -/

/-- Gives it another configuration. An open popup is closed. -/
def setConfig (b : Bar) (config : Config) : Bar × Except ActionFault Unit :=
  { b with config, executor := { b.executor with haptics := config.haptics } }.closePopup

/-- Tells it the state of the host. -/
def setSnapshot (b : Bar) (snapshot : Snapshot) : Bar :=
  { b with snapshot }

/-- Tells it the width of its viewport. -/
def setWidth (b : Bar) (width : Nat) : Bar :=
  { b with width }

/-- Tells it whether the dashboard is being edited. -/
def setEdited (b : Bar) (isEdited : Bool) : Bar :=
  { b with isEdited }

/-- The host stops listening. -/
def hostGone (b : Bar) : Bar :=
  { b with executor := { b.executor with outbox := b.executor.outbox.close } }

end Bar

end NavigationBar
