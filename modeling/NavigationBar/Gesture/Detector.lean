import NavigationBar.Host.Event
import NavigationBar.Time.Deadlines

/-!
# Gesture detectors

A detector watches the pointer on one item and tells its gestures apart. Pressing the pointer starts
a timer if holds are bound. A release is

* the second half of a double tap, if double taps are bound and the last tap was on the same target
  and within a window of time;
* else a hold, if the timer has fired and the pointer neither moved away nor left;
* else a tap. If double taps are bound the tap waits for the window to pass, because a second one
  would turn it into half of a double tap.

What is bound may change at any time, and is asked for again at each press, release and hold.
-/

namespace NavigationBar

/-- How long and how far pointers may go. -/
structure GestureTiming where
  /-- The time after which a press is a hold. -/
  hold : Nat := 500
  /-- The time within which a second tap makes a double tap. -/
  window : Nat := 250
  /-- The distance along an axis that a pointer may move while it holds. -/
  threshold : Float := 10.0
deriving Inhabited

/-- For which gestures something is bound. -/
structure Bindings where
  /-- For taps. -/
  tap : Bool := false
  /-- For holds. -/
  hold : Bool := false
  /-- For double taps. -/
  doubleTap : Bool := false
deriving DecidableEq, Repr, Inhabited

namespace Bindings

/-- Bindings as a JSON value. -/
def toJson (b : Bindings) : Json :=
  .object [("double_tap", .bool b.doubleTap), ("hold", .bool b.hold), ("tap", .bool b.tap)]

end Bindings

/-- When a hold is reported. -/
inductive HoldMode where
  /-- At the release. -/
  | onRelease
  /-- As soon as the press has lasted long enough. -/
  | onTimer
deriving DecidableEq, Repr, Inhabited

/-- The place of a pointer. -/
structure Point where
  /-- To the right. -/
  x : Float := 0
  /-- Downwards. -/
  y : Float := 0
deriving Inhabited

/-- Whether a pointer has moved too far to hold. -/
def GestureTiming.exceeds (t : GestureTiming) (start p : Point) : Bool :=
  (p.x - start.x).abs > t.threshold || (p.y - start.y).abs > t.threshold

/-- A gesture that was told apart. -/
structure Recognition where
  /-- The gesture. -/
  gesture : Gesture
  /-- The element that it meets. -/
  target : Target
deriving DecidableEq, Repr, Inhabited

/-- What a detector waits for. -/
inductive Slot where
  /-- For the press to become a hold. -/
  | hold
  /-- For a tap not to become a double tap. -/
  | tap (target : Target)
deriving DecidableEq, Repr

/-- A gesture detector. -/
structure Detector where
  /-- How long and how far pointers may go. -/
  timing : GestureTiming := {}
  /-- When a hold is reported. -/
  mode : HoldMode := .onRelease
  /-- For which gestures something was bound when it was last asked. -/
  bindings : Bindings := {}
  /-- Where the press began that goes on. -/
  start : Option Point := none
  /-- On which element the last press began. -/
  target : Option Target := none
  /-- Whether the press has become a hold. -/
  isHold : Bool := false
  /-- When and on which element the last tap was that may become half of a double tap. -/
  lastTap : Option (Nat × Target) := none
  /-- What it waits for. -/
  timers : Timers Slot Unit := {}
  /-- Whether it watches no more. -/
  isDetached : Bool := false
deriving Inhabited

namespace Detector

/-- The detector, told by its receiver what is bound, if the receiver knows. -/
def refresh (d : Detector) (supply : Option Bindings) : Detector :=
  { d with bindings := supply.getD d.bindings }

/-- Whether the detector waits for the press to become a hold. -/
def holdPending (d : Detector) : Bool :=
  d.timers.isActive .hold

/-- Binds gestures; a receiver that knows what is bound overrules it. -/
def setBindings (d : Detector) (b : Bindings) : Detector :=
  { d with bindings := b }

/-- The pointer is pressed on an element. -/
def down (d : Detector) (supply : Option Bindings) (c : Clock) (target : Target) (p : Point) :
    Detector × Clock :=
  if d.isDetached then (d, c)
  else
    let d := { d.refresh supply with start := some p, target := some target, isHold := false }
    if d.bindings.hold then
      ({ d with timers := d.timers.start c .hold d.timing.hold () }, c.tick)
    else (d, c)

/-- The pointer moves. -/
def move (d : Detector) (p : Point) : Detector :=
  match d.start with
  | some start =>
    if d.holdPending && d.timing.exceeds start p then
      { d with timers := d.timers.cancel .hold }
    else d
  | none => d

/-- Whether a tap on an element is the second half of a double tap. -/
def completesDoubleTap (d : Detector) (now : Nat) (target : Target) : Bool :=
  d.bindings.doubleTap && d.lastTap.any fun (time, last) =>
    last == target && now - time < d.timing.window

/-- The pointer was released after a short press on an element. -/
def shortPress (d : Detector) (c : Clock) (target : Target) :
    Detector × Clock × Option Recognition :=
  let d := { d with lastTap := some (c.now, target) }
  if !d.bindings.tap then (d, c, none)
  else if d.bindings.doubleTap then
    ({ d with timers := d.timers.start c (.tap target) d.timing.window () }, c.tick, none)
  else (d, c, some ⟨.tap, target⟩)

/-- The pointer is released on an element. -/
def up (d : Detector) (supply : Option Bindings) (c : Clock) (target : Target) :
    Detector × Clock × Option Recognition :=
  if d.isDetached then (d, c, none)
  else
    let d := { d.refresh supply with start := none, timers := d.timers.cancel .hold }
    if d.completesDoubleTap c.now target then
      ({ d with lastTap := none, isHold := false, timers := d.timers.cancel (.tap target) }, c,
        some ⟨.doubleTap, target⟩)
    else if d.isHold then
      let d := { d with isHold := false }
      match d.mode with
      | .onTimer => ({ d with lastTap := none }, c, none)
      | .onRelease =>
        if d.bindings.hold then ({ d with lastTap := none }, c, some ⟨.hold, target⟩)
        else d.shortPress c target
    else d.shortPress c target

/-- The pointer leaves the item or is taken away: the press is no hold any more. -/
def abandon (d : Detector) : Detector :=
  { d with start := none, isHold := false, timers := d.timers.cancel .hold }

/-- The detector watches no more, and forgets what it has seen. -/
def detach (d : Detector) : Detector :=
  { timing := d.timing, mode := d.mode, bindings := d.bindings, isDetached := true }

/-- What the pointer does, and what else is done with a detector. -/
inductive Input where
  /-- The pointer is pressed on an element. -/
  | down (target : Target) (p : Point)
  /-- The pointer moves. -/
  | move (p : Point)
  /-- The pointer is released on an element. -/
  | up (target : Target)
  /-- The pointer is taken away. -/
  | cancel
  /-- The pointer leaves the item. -/
  | leave
  /-- The detector is taken off. -/
  | detach
  /-- Gestures are bound. -/
  | setBindings (b : Bindings)

/-- Handles one input. -/
def handle (d : Detector) (supply : Option Bindings) (c : Clock) :
    Input → Detector × Clock × Option Recognition
  | .down target p =>
    let (d, c) := d.down supply c target p
    (d, c, none)
  | .move p => (d.move p, c, none)
  | .up target => d.up supply c target
  | .cancel | .leave => (d.abandon, c, none)
  | .detach => (d.detach, c, none)
  | .setBindings b => (d.setBindings b, c, none)

/-- A gesture that the detector reports, unless it watches no more. -/
def emit (d : Detector) (g : Recognition) : Option Recognition :=
  if d.isDetached then none else some g

/-- What the detector waited for has come. -/
def fire (d : Detector) (supply : Option Bindings) : Slot → Detector × Option Recognition
  | .tap target => (d, d.emit ⟨.tap, target⟩)
  | .hold =>
    let d := d.refresh supply
    if d.bindings.hold then
      let d := { d with isHold := true }
      match d.mode with
      | .onTimer => (d, d.target.bind fun target => d.emit ⟨.hold, target⟩)
      | .onRelease => (d, none)
    else (d, none)

/-- A timer of the detector fires, the one with a stamp. -/
def wake (d : Detector) (supply : Option Bindings) (stamp : Nat) (slot : Slot) :
    Detector × Option Recognition :=
  { d with timers := d.timers.fired stamp }.fire supply slot

end Detector

end NavigationBar
