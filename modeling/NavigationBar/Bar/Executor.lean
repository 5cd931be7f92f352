import NavigationBar.Bar.Plan

/-!
# The executor

Carries plans out. It keeps which popup is open and when the bar vibrates. A plan stops at the first
event that the host does not take; what was done before stays done.
-/

namespace NavigationBar

/-- The state of what carries plans out. -/
structure Executor where
  /-- The clock. -/
  clock : Clock := {}
  /-- What was sent to the host. -/
  outbox : Outbox := {}
  /-- The route whose popup is open. -/
  openRoute : Option Nat := none
  /-- When the bar vibrates. -/
  haptics : Option Haptics := none
deriving Inhabited

namespace Executor

/-- Brings one effect about, unless the host does not take its event. -/
def bring? (x : Executor) : Effect → Option Executor
  | .setOpen route => some { x with openRoute := route }
  | .send e => (x.outbox.send? x.clock.now e).map fun outbox => { x with outbox }
  | .sendLater delay e =>
    some { x with outbox := x.outbox.sendLater x.clock delay e, clock := x.clock.tick }

/-- Brings effects about until one fails; tells whether none did. -/
def bringAll (x : Executor) : List Effect → Executor × Bool
  | [] => (x, true)
  | e :: rest =>
    match x.bring? e with
    | some x => x.bringAll rest
    | none => (x, false)

/-- Carries a plan out. -/
def perform (x : Executor) (p : Plan) : Executor × Except ActionFault Unit :=
  let (x, isDone) := x.bringAll p.effects
  (x, if isDone then p.outcome else .error .hostGone)

/-- Carries out what an action does on an occasion. -/
def execute (x : Executor) (c : Template.Context) (a : Option Action) (o : Occasion) :
    Executor × Except ActionFault Unit :=
  x.perform (.of x.haptics x.openRoute c a o)

/-- Opens the popup of a route. -/
def openPopup (x : Executor) (route : Nat) (target : Target) :
    Executor × Except ActionFault Unit :=
  x.perform { effects := Popup.opening x.openRoute route target }

/-- Closes the popup of a route, if it is open. -/
def closePopup (x : Executor) (route : Nat) : Executor × Except ActionFault Unit :=
  x.perform { effects := Popup.close x.openRoute route }

/-- Closes whichever popup is open. -/
def closeAnyPopup (x : Executor) : Executor × Except ActionFault Unit :=
  x.perform { effects := Popup.closeAny x.openRoute }

/-- Delivers the events that are on their way and come before something else. -/
def deliverBefore {α : Type} (x : Executor) (a : Scheduled α) : Executor :=
  { x with
    outbox := x.outbox.deliver fun e => e.NotAfter a
    clock := x.clock.advance a.due }

/-- Delivers the events that are due by a time, at which the clock stands then. -/
def settle (x : Executor) (time : Nat) : Executor :=
  { x with
    outbox := x.outbox.deliver fun e => e.due ≤ time
    clock := x.clock.advance time }

end Executor

end NavigationBar
