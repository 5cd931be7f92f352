import NavigationBar.Proofs.Gesture.Settling

/-!
# Presses on one element

The well-formed streams of pointer input on one element, and what they amount to when holds are
reported at the release. A press is known by when it begins and ends, by whether the pointer left or
was taken away during it, and by where the pointer was seen; a batch classifier (`classify`) reads
the gestures off the list of presses, with nothing but the time of the last tap to remember.
-/

namespace NavigationBar

/-- What may happen besides presses and releases. -/
inductive Interlude where
  /-- The pointer moves. -/
  | move (p : Point)
  /-- The pointer leaves the item. -/
  | leave
  /-- The pointer is taken away. -/
  | cancel
  /-- Time passes. -/
  | sleep (delay : Nat)

namespace Interlude

/-- The step of a run that an interlude is. -/
def step : Interlude → DetectorStep
  | move p => .input (.move p)
  | leave => .input .leave
  | cancel => .input .cancel
  | sleep delay => .sleep delay

/-- How long an interlude takes. -/
def delay : Interlude → Nat
  | sleep delay => delay
  | _ => 0

/-- Whether an interlude ends the hope for a hold. -/
def abandons : Interlude → Bool
  | leave | cancel => true
  | _ => false

/-- How long some interludes take together. -/
def elapsed : List Interlude → Nat
  | [] => 0
  | i :: l => i.delay + elapsed l

/-- Where the pointer is seen when, during some interludes. -/
def moves (now : Nat) : List Interlude → List (Nat × Point)
  | [] => []
  | move p :: rest => (now, p) :: moves now rest
  | i :: rest => moves (now + i.delay) rest

end Interlude

/-- A press with its release, and the interludes before it. -/
structure Press where
  /-- What happens before the press. -/
  before : List Interlude := []
  /-- Where the press begins. -/
  start : Point
  /-- What happens between the press and the release. -/
  during : List Interlude

/-- A press as the classifier knows it. -/
structure TimedPress where
  /-- When it begins. -/
  down : Nat
  /-- When it ends. -/
  up : Nat
  /-- Where it begins. -/
  start : Point
  /-- Whether the pointer left or was taken away during it. -/
  isAbandoned : Bool
  /-- Where the pointer was seen when. -/
  moves : List (Nat × Point)

namespace Press

/-- The steps of a press on an element. -/
def steps (target : Target) (p : Press) : List DetectorStep :=
  p.before.map Interlude.step ++ .input (.down target p.start) ::
    (p.during.map Interlude.step ++ [.input (.up target)])

/-- What is known of a press whose interludes begin now. -/
def timed (now : Nat) (p : Press) : TimedPress :=
  let down := now + Interlude.elapsed p.before
  { down
    up := down + Interlude.elapsed p.during
    start := p.start
    isAbandoned := p.during.any Interlude.abandons
    moves := Interlude.moves down p.during }

/-- What is known of some presses in a row. -/
def timeline (now : Nat) : List Press → List TimedPress
  | [] => []
  | p :: ps => p.timed now :: timeline (p.timed now).up ps

/-- The steps of some presses on an element, and of what happens after them. -/
def stream (target : Target) (ps : List Press) (rest : List Interlude) : List DetectorStep :=
  ps.flatMap (steps target) ++ rest.map Interlude.step

end Press

namespace TimedPress

variable (timing : GestureTiming) (b : Bindings)

/-- Whether the pointer never moves too far for a hold before the time `limit`. -/
def isSteady (start : Point) (limit : Nat) (moves : List (Nat × Point)) : Bool :=
  moves.all fun m => !timing.exceeds start m.2 || limit ≤ m.1

/-- Whether a press is long and steady enough for a hold. -/
def isHold (p : TimedPress) : Bool :=
  p.down + timing.hold ≤ p.up && !p.isAbandoned &&
    isSteady timing p.start (p.down + timing.hold) p.moves

/-- Whether a press makes a double tap together with a tap at the time `last`. -/
def isSecond (last : Option Nat) (p : TimedPress) : Bool :=
  b.doubleTap && last.any fun time => p.up - time < timing.window

/-- The gestures that presses on an element amount to, and when they are reported. The last tap that
may become half of a double tap was at the time `last`. -/
def classify (target : Target) (last : Option Nat) : List TimedPress → List (Nat × Recognition)
  | [] => []
  | p :: ps =>
    if p.isSecond timing b last then (p.up, ⟨.doubleTap, target⟩) :: classify target none ps
    else if b.hold && p.isHold timing then (p.up, ⟨.hold, target⟩) :: classify target none ps
    else
      let tap : List (Nat × Recognition) :=
        if !b.tap then []
        else if !b.doubleTap then [(p.up, ⟨.tap, target⟩)]
        else if ps.head?.any (isSecond timing b (some p.up)) then []
        else [(p.up + timing.window, ⟨.tap, target⟩)]
      tap ++ classify target (some p.up) ps

end TimedPress

end NavigationBar
