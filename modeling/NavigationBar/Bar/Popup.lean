import NavigationBar.Host.Outbox

/-!
# Popups

At most one popup is open at a time. What opening and closing popups asks of the host is a list of
effects, which are brought about one after the other until one fails.
-/

namespace NavigationBar

/-- Something that an action brings about. -/
inductive Effect where
  /-- The popup of a route counts as open from now on, or none does. -/
  | setOpen (route : Option Nat)
  /-- An event is sent at once. -/
  | send (e : Event)
  /-- An event is sent after a delay. -/
  | sendLater (delay : Nat) (e : Event)

namespace Popup

/-- How long the transition of a closing popup takes. -/
def closingTime : Nat := 200

/-- What takes the popup of a route off the page. -/
def dismiss (route : Nat) : List Effect :=
  [.send (.closePopup route), .sendLater closingTime (.popupRemoved route)]

/-- What opens the popup of a route while `current` may be open; another one is closed. -/
def opening (current : Option Nat) (route : Nat) (target : Target) : List Effect :=
  let others := match current with
    | some other => if other = route then [] else dismiss other
    | none => []
  .setOpen (some route) :: others ++ [.send (.openPopup route target)]

/-- What closes whichever popup is open. -/
def closeAny : Option Nat → List Effect
  | some route => .setOpen none :: dismiss route
  | none => []

/-- What closes the popup of a route, if it is open. -/
def close (current : Option Nat) (route : Nat) : List Effect :=
  if current = some route then closeAny current else []

end Popup

end NavigationBar
