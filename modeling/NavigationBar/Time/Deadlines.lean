import NavigationBar.Time.Agenda

/-!
# Deadlines

One-shot timers as a list of deadlines, at most one for each slot: a timer that is started in a slot
replaces the one that is pending there. A timer fires when its time has come, unless it was
cancelled or replaced before. This is what the slots and the sleeping tasks of `TimerRun` come to,
as far as other parts see it (`TimerRun.matches_run`).
-/

namespace NavigationBar

/-- Pending timers. Each has a slot, and something to remember. -/
structure Timers (σ π : Type) where
  /-- What is to fire. -/
  agenda : Agenda (σ × π) := .empty
deriving Inhabited

namespace Timers

variable {σ π : Type} [DecidableEq σ]

/-- The pending timers, the first to fire first. -/
def pending (t : Timers σ π) : List (Scheduled (σ × π)) :=
  t.agenda.entries

/-- Whether a timer is pending in a slot. -/
def isActive (t : Timers σ π) (slot : σ) : Bool :=
  t.pending.any fun e => e.value.1 = slot

/-- The timers without the one in a slot. -/
def cancel (t : Timers σ π) (slot : σ) : Timers σ π where
  agenda := t.agenda.filter fun e => e.value.1 ≠ slot

/-- No timers. -/
def cancelAll (_ : Timers σ π) : Timers σ π := {}

/-- The timers with one more, which fires after a delay. -/
def start (t : Timers σ π) (c : Clock) (slot : σ) (delay : Nat) (memory : π) : Timers σ π where
  agenda := (t.cancel slot).agenda.add ⟨c.now + delay, c.stamp, (slot, memory)⟩

/-- The timers that fire up to a time, in their order. -/
def due (t : Timers σ π) (time : Nat) : List (Scheduled (σ × π)) :=
  t.agenda.due time

/-- The timers that do not fire up to a time. -/
def after (t : Timers σ π) (time : Nat) : Timers σ π where
  agenda := t.agenda.after time

/-- The timers without the one that has a stamp. -/
def fired (t : Timers σ π) (stamp : Nat) : Timers σ π where
  agenda := t.agenda.filter fun e => e.stamp ≠ stamp

end Timers

end NavigationBar
