import NavigationBar.Host.Event
import NavigationBar.Time.Agenda

/-!
# The outbox

What the bar has sent to its host, and what is on its way. An event may be delayed; nothing takes
back an event that is on its way. When the host no longer listens, an event that is sent at once is
refused, and one whose delay ends is dropped.
-/

namespace NavigationBar

/-- The outbox of the bar. -/
structure Outbox where
  /-- Whether the host listens. -/
  isOpen : Bool := true
  /-- What the host received when, the first first. -/
  sent : List (Nat × Event) := []
  /-- What is on its way. -/
  waiting : Agenda Event := .empty
deriving Inhabited

namespace Outbox

/-- Sends an event at once, if the host listens. -/
def send? (o : Outbox) (now : Nat) (e : Event) : Option Outbox :=
  if o.isOpen then some { o with sent := o.sent ++ [(now, e)] } else none

/-- Sends an event after a delay. -/
def sendLater (o : Outbox) (c : Clock) (delay : Nat) (e : Event) : Outbox :=
  { o with waiting := o.waiting.add ⟨c.now + delay, c.stamp, e⟩ }

/-- Delivers the first events that are on their way, as long as they satisfy a condition. -/
def deliver (o : Outbox) (p : Scheduled Event → Bool) : Outbox :=
  { o with
    sent := o.sent ++
      if o.isOpen then (o.waiting.takeWhile p).map fun e => (e.due, e.value) else []
    waiting := o.waiting.dropWhile p }

/-- The host stops listening. -/
def close (o : Outbox) : Outbox :=
  { o with isOpen := false }

end Outbox

end NavigationBar
