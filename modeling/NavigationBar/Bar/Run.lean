import NavigationBar.Bar.Basic

/-!
# Bars in the course of time

A bar with the detectors that are attached to its places. A detector is told by the bar what is
bound, and the bar does what the gestures that a detector tells apart are bound to. Timers of
detectors and delayed events share one clock, and happen in the order of their times, and of their
stamps within one time.
-/

namespace NavigationBar

/-- A detector on a place of a bar. -/
structure Attached where
  /-- Its name. -/
  id : String
  /-- Where it is. -/
  place : Place
  /-- The detector. -/
  detector : Detector
deriving Inhabited

/-- A bar with its detectors. -/
structure BarRun where
  /-- The bar. -/
  bar : Bar
  /-- The detectors. -/
  detectors : List Attached := []
deriving Inhabited

/-- What is done with a bar. -/
inductive BarStep where
  /-- It gets another configuration. -/
  | setConfig (c : Config)
  /-- It is told the state of the host. -/
  | setSnapshot (s : Snapshot)
  /-- It is told the width of its viewport. -/
  | setWidth (width : Nat)
  /-- It is told whether the dashboard is being edited. -/
  | setEdited (isEdited : Bool)
  /-- A gesture is made on a place. -/
  | dispatch (p : Place) (g : Gesture) (target : Target)
  /-- Whichever popup is open is closed. -/
  | closePopup
  /-- The media player plays or pauses. -/
  | playPause
  /-- The media player skips to the next track. -/
  | nextTrack
  /-- A detector is attached to a place; another one of its name goes. -/
  | attach (id : String) (p : Place)
  /-- A detector goes. -/
  | drop (id : String)
  /-- Something is done with a detector. -/
  | input (id : String) (i : Detector.Input)
  /-- The host stops listening. -/
  | hostGone
  /-- Time passes. -/
  | sleep (delay : Nat)

namespace BarRun

/-- The clock. -/
def clock (r : BarRun) : Clock :=
  r.bar.executor.clock

/-- The detector of a name. -/
def detector? (r : BarRun) (id : String) : Option Attached :=
  r.detectors.find? fun a => a.id == id

/-- The run without a detector. -/
def drop (r : BarRun) (id : String) : BarRun :=
  { r with detectors := r.detectors.filter fun a => a.id != id }

/-- When holds on a place are reported: on the media player at once. -/
def modeOf : Place → HoldMode
  | .player => .onTimer
  | _ => .onRelease

/-- The run with one more detector. -/
def attach (r : BarRun) (id : String) (p : Place) : BarRun :=
  let detector : Detector := { mode := modeOf p, bindings := r.bar.bindings p }
  { r with detectors := (r.drop id).detectors ++ [⟨id, p, detector⟩] }

/-- The run with another state of a detector. -/
def put (r : BarRun) (a : Attached) (detector : Detector) : BarRun :=
  { r with detectors := r.detectors.map fun b => if b.id == a.id then { a with detector } else b }

/-- The run after a detector reported something, if it did. What goes wrong then is not told. -/
def reported (r : BarRun) (a : Attached) (report : Option Recognition) : BarRun :=
  match report with
  | some g => { r with bar := (r.bar.dispatch a.place g.gesture g.target).1 }
  | none => r

/-- Something is done with a detector. -/
def input (r : BarRun) (id : String) (i : Detector.Input) : BarRun :=
  match r.detector? id with
  | none => r
  | some a =>
    let (detector, clock, report) := a.detector.handle (some (r.bar.bindings a.place)) r.clock i
    let r := r.put a detector
    { r with bar := { r.bar with executor := { r.bar.executor with clock } } }.reported a report

/-- The timers of all detectors that are due by a time, in their order. -/
def wakes (r : BarRun) (time : Nat) : Agenda (String × Slot) :=
  .ofList (r.detectors.flatMap fun a =>
    (a.detector.timers.due time).map (·.map fun v => (a.id, v.1)))

/-- A timer of a detector fires, after the events that come before it. -/
def wake (r : BarRun) (e : Scheduled (String × Slot)) : BarRun :=
  let r := { r with bar := { r.bar with executor := r.bar.executor.deliverBefore e } }
  match r.detector? e.value.1 with
  | none => r
  | some a =>
    let (detector, report) :=
      a.detector.wake (some (r.bar.bindings a.place)) e.stamp e.value.2
    (r.put a detector).reported a report

/-- Does what is due by a time, at which the clock stands then. -/
def settle (r : BarRun) (time : Nat) : BarRun :=
  let r := (r.wakes time).entries.foldl wake r
  { r with bar := { r.bar with executor := r.bar.executor.settle time } }

/-- The run with another bar. -/
def withBar (r : BarRun) (b : Bar × Except ActionFault Unit) : BarRun × Except ActionFault Unit :=
  ({ r with bar := b.1 }, b.2)

/-- Does one thing, before anything that is due. -/
def act (r : BarRun) : BarStep → BarRun × Except ActionFault Unit
  | .setConfig c => r.withBar (r.bar.setConfig c)
  | .setSnapshot s => r.withBar (r.bar.setSnapshot s, .ok ())
  | .setWidth width => r.withBar (r.bar.setWidth width, .ok ())
  | .setEdited isEdited => r.withBar (r.bar.setEdited isEdited, .ok ())
  | .dispatch p g target => r.withBar (r.bar.dispatch p g target)
  | .closePopup => r.withBar r.bar.closePopup
  | .playPause => r.withBar r.bar.playPause
  | .nextTrack => r.withBar r.bar.nextTrack
  | .attach id p => (r.attach id p, .ok ())
  | .drop id => (r.drop id, .ok ())
  | .input id i => (r.input id i, .ok ())
  | .hostGone => r.withBar (r.bar.hostGone, .ok ())
  | .sleep delay => (r.settle (r.clock.now + delay), .ok ())

/-- Does one thing, and then what is due. Timers are taken to keep up with the clock: whatever is
due at a time has happened before the next thing is done at that time. -/
def step (r : BarRun) (s : BarStep) : BarRun × Except ActionFault Unit :=
  let (r, outcome) := r.act s
  (r.settle r.clock.now, outcome)

end BarRun

end NavigationBar
