import NavigationBar.Gesture.Detector

/-!
# Detectors in the course of time

A detector together with its receiver: what the receiver says is bound, and what was reported to it
when.
-/

namespace NavigationBar

/-- A detector, a clock, and the receiver of the detector. -/
structure DetectorRun where
  /-- The clock. -/
  clock : Clock := {}
  /-- The detector. -/
  detector : Detector := {}
  /-- What the receiver says is bound, if it knows. -/
  supply : Option Bindings := none
  /-- What was reported when, the first first. -/
  log : List (Nat × Recognition) := []
deriving Inhabited

/-- What happens in such a run. -/
inductive DetectorStep where
  /-- Something is done with the detector. -/
  | input (i : Detector.Input)
  /-- The receiver says something else. -/
  | setSupply (b : Option Bindings)
  /-- Time passes. -/
  | sleep (delay : Nat)

namespace DetectorRun

/-- The run after the detector reported something, if it did. -/
def reported (r : DetectorRun) (report : Option Recognition) : DetectorRun :=
  { r with log := r.log ++ (report.map fun g => (r.clock.now, g)).toList }

/-- A timer fires at its time. -/
def wake (r : DetectorRun) (e : Scheduled (Slot × Unit)) : DetectorRun :=
  let (detector, report) := r.detector.wake r.supply e.stamp e.value.1
  { r with clock := r.clock.advance e.due, detector }.reported report

/-- Fires what is due by a time, at which the clock stands then. A timer that fires neither starts
nor cancels another. -/
def settle (r : DetectorRun) (time : Nat) : DetectorRun :=
  let r := (r.detector.timers.due time).foldl wake r
  { r with clock := r.clock.advance time }

/-- Does one thing, before anything fires. -/
def act (r : DetectorRun) : DetectorStep → DetectorRun
  | .input i =>
    let (detector, clock, report) := r.detector.handle r.supply r.clock i
    { r with detector, clock }.reported report
  | .setSupply b => { r with supply := b }
  | .sleep delay => r.settle (r.clock.now + delay)

/-- Does one thing, and then fires what is due. Timers are taken to keep up with the clock: whatever
is due at a time has fired before the next thing is done at that time. -/
def step (r : DetectorRun) (s : DetectorStep) : DetectorRun :=
  let r := r.act s
  r.settle r.clock.now

end DetectorRun

end NavigationBar
