import NavigationBar.Time.Agenda

/-!
# Timers

One-shot timers, at most one for each slot. To start a timer is to spawn a task that sleeps until
the timer is due, or until its token is cancelled. A map keeps for each slot in which a timer is
pending the token and the generation of its task. A task that wakes up looks there: it fires only if
its slot still holds its generation. So a task whose timer was cancelled or replaced does nothing,
even if it wakes up late, when its slot has been taken again.

When a task is polled is up to the runtime, and so is what it looks at first if both of the things
that it waits for have come: `TimerRun.poll` takes either as an argument. Only a schedule in which
the tasks keep up with the clock makes timers fire in time. `TimerRun.step` follows such a schedule:
whatever is due has fired before the next thing is done at the same time.
-/

namespace NavigationBar

/-! ## Slots -/

/-- A map from slots to what they hold. -/
structure SlotMap (σ α : Type) where
  /-- The slots that hold something, with what they hold. -/
  entries : List (σ × α)
  /-- No slot stands there twice. -/
  distinct : (entries.map Prod.fst).Nodup

namespace SlotMap

variable {σ α : Type}

/-- The map in which no slot holds anything. -/
def empty : SlotMap σ α where
  entries := []
  distinct := .nil

instance : Inhabited (SlotMap σ α) := ⟨empty⟩

variable [DecidableEq σ]

/-- What a slot holds. -/
def get? (m : SlotMap σ α) (slot : σ) : Option α :=
  (m.entries.find? fun e => e.1 = slot).map Prod.snd

/-- Whether a slot holds something. -/
def contains (m : SlotMap σ α) (slot : σ) : Bool :=
  (m.get? slot).isSome

/-- The map without what a slot holds. -/
def erase (m : SlotMap σ α) (slot : σ) : SlotMap σ α where
  entries := m.entries.filter fun e => e.1 ≠ slot
  distinct := m.distinct.sublist (List.filter_sublist.map _)

/-- The map with something else in a slot. -/
def insert (m : SlotMap σ α) (slot : σ) (a : α) : SlotMap σ α where
  entries := (slot, a) :: (m.erase slot).entries
  distinct := by
    refine List.nodup_cons.2 ⟨fun h => ?_, (m.erase slot).distinct⟩
    obtain ⟨e, he, hslot⟩ := List.mem_map.1 h
    simpa [hslot] using (List.mem_filter.1 he).2

end SlotMap

/-! ## Tasks -/

/-- What is kept for a slot in which a timer is pending. -/
structure TimerEntry where
  /-- The token that its task listens to. -/
  token : Nat
  /-- The number of its start. -/
  generation : Nat
deriving DecidableEq, Repr, Inhabited

/-- A task that sleeps until its timer is due. -/
structure TimerTask (σ π : Type) where
  /-- The slot of the timer. -/
  slot : σ
  /-- The number of its start. -/
  generation : Nat
  /-- The token that the task listens to. No other task has it, so it also names the task. -/
  token : Nat
  /-- How long the task sleeps. -/
  delay : Nat
  /-- What the timer remembers. -/
  memory : π
  /-- When its sleep ends. It begins when the task is polled for the first time. -/
  due : Option Nat := none
deriving DecidableEq, Repr, Inhabited

namespace TimerTask

variable {σ π : Type}

/-- When the sleep of a task ends, if it begins now at the latest. -/
def dueAt (t : TimerTask σ π) (now : Nat) : Nat :=
  t.due.getD (now + t.delay)

/-- The task asleep, if it is the one that has a token. -/
def asleep (t : TimerTask σ π) (token now : Nat) : TimerTask σ π :=
  if t.token = token then { t with due := some (t.dueAt now) } else t

/-- What is to happen at the end of the sleep. -/
def scheduled (t : TimerTask σ π) (now : Nat) : Scheduled (σ × π) :=
  ⟨t.dueAt now, t.generation, (t.slot, t.memory)⟩

end TimerTask

/-- One of the two things that a task waits for. -/
inductive Wakeup where
  /-- Its sleep ends. -/
  | alarm
  /-- Its token is cancelled. -/
  | token
deriving DecidableEq, Repr, Inhabited

/-- Timers in the course of time, with their tasks, and which of them have fired when. The count of
starts has no end. -/
structure TimerRun (σ π : Type) where
  /-- The time. -/
  now : Nat := 0
  /-- The slots in which timers are pending. -/
  slots : SlotMap σ TimerEntry := .empty
  /-- The number of the next start. -/
  generation : Nat := 1
  /-- The next token. -/
  nextToken : Nat := 0
  /-- The tokens that were cancelled. -/
  cancelled : List Nat := []
  /-- The tasks that are not done, in the order in which they were spawned. -/
  tasks : List (TimerTask σ π) := []
  /-- The timers that have fired, at which times, the first first. -/
  fired : List (Scheduled (σ × π)) := []
deriving Inhabited

/-- What is done with timers. -/
inductive TimerStep (σ π : Type) where
  /-- Start a timer. -/
  | start (slot : σ) (delay : Nat) (memory : π)
  /-- Cancel the timer in a slot. -/
  | cancel (slot : σ)
  /-- Cancel all timers. -/
  | cancelAll
  /-- Ask for a timer in a slot. -/
  | isActive (slot : σ)
  /-- Let time pass. -/
  | sleep (delay : Nat)

namespace TimerRun

variable {σ π : Type} [DecidableEq σ]

/-! ## What is done with timers -/

/-- Whether a timer is pending in a slot. -/
def isActive (r : TimerRun σ π) (slot : σ) : Bool :=
  r.slots.contains slot

/-- Empties a slot and cancels the token that it held; tells whether it held one. -/
def cancel (r : TimerRun σ π) (slot : σ) : TimerRun σ π × Bool :=
  match r.slots.get? slot with
  | some entry =>
    ({ r with slots := r.slots.erase slot, cancelled := entry.token :: r.cancelled }, true)
  | none => (r, false)

/-- Empties all slots and cancels the tokens that they held. -/
def cancelAll (r : TimerRun σ π) : TimerRun σ π :=
  { r with
    slots := .empty
    cancelled := r.slots.entries.map (fun e => e.2.token) ++ r.cancelled }

omit [DecidableEq σ] in
/-- The task that is spawned for the next start. -/
def spawned (r : TimerRun σ π) (slot : σ) (delay : Nat) (memory : π) : TimerTask σ π :=
  { slot, generation := r.generation, token := r.nextToken, delay, memory }

/-- Spawns a task for an empty slot, which holds a new generation and a new token then. -/
def spawn (r : TimerRun σ π) (slot : σ) (delay : Nat) (memory : π) : TimerRun σ π :=
  { r with
    slots := r.slots.insert slot { token := r.nextToken, generation := r.generation }
    generation := r.generation + 1
    nextToken := r.nextToken + 1
    tasks := r.tasks ++ [r.spawned slot delay memory] }

/-- Starts a timer, in place of the one in its slot. -/
def start (r : TimerRun σ π) (slot : σ) (delay : Nat) (memory : π) : TimerRun σ π :=
  (r.cancel slot).1.spawn slot delay memory

/-- Does one thing, while no task runs; tells whether a timer is pending in the slot that a cancel
or a question is about. -/
def act (r : TimerRun σ π) : TimerStep σ π → TimerRun σ π × Option Bool
  | .start slot delay memory => (r.start slot delay memory, none)
  | .cancel slot =>
    let (r, answer) := r.cancel slot
    (r, some answer)
  | .cancelAll => (r.cancelAll, none)
  | .isActive slot => (r, some (r.isActive slot))
  | .sleep delay => ({ r with now := r.now + delay }, none)

/-! ## What tasks do -/

omit [DecidableEq σ] in
/-- The tasks without the one that has a token. -/
def finish (r : TimerRun σ π) (token : Nat) : TimerRun σ π :=
  { r with tasks := r.tasks.filter fun t => t.token ≠ token }

omit [DecidableEq σ] in
/-- The task that has a token sleeps on. -/
def doze (r : TimerRun σ π) (token : Nat) : TimerRun σ π :=
  { r with tasks := r.tasks.map fun t => t.asleep token r.now }

/-- The timer of a task fires, and its slot is empty then. -/
def fire (r : TimerRun σ π) (t : TimerTask σ π) : TimerRun σ π :=
  { r with
    slots := r.slots.erase t.slot
    fired := r.fired ++ [⟨r.now, t.generation, (t.slot, t.memory)⟩] }

/-- The sleep of a task has ended: its timer fires if its slot still holds its generation. -/
def wake (r : TimerRun σ π) (t : TimerTask σ π) : TimerRun σ π :=
  match r.slots.get? t.slot with
  | some entry => if entry.generation = t.generation then r.fire t else r
  | none => r

/-- A task runs until it has to wait or is done. If its sleep has ended and its token is cancelled
as well, what it looks at first decides whether it goes on. -/
def poll (r : TimerRun σ π) (token : Nat) (first : Wakeup) : TimerRun σ π :=
  match r.tasks.find? fun t => t.token = token with
  | none => r
  | some t =>
    if token ∈ r.cancelled ∧ (first = .token ∨ r.now < t.dueAt r.now) then r.finish token
    else if t.dueAt r.now ≤ r.now then (r.finish token).wake t
    else r.doze token

/-! ## A schedule in which tasks keep up with the clock -/

/-- Polls some tasks, one after the other. They look at their tokens first. -/
def pollEach (r : TimerRun σ π) (tokens : List Nat) : TimerRun σ π :=
  tokens.foldl (fun r token => r.poll token .token) r

/-- Polls every task once, in the order in which they were spawned. -/
def round (r : TimerRun σ π) : TimerRun σ π :=
  r.pollEach (r.tasks.map TimerTask.token)

/-- Lets the clock stop at one time after the other, and all tasks run at each of them. -/
def visit (r : TimerRun σ π) (times : List Nat) : TimerRun σ π :=
  times.foldl (fun r time => (r.act (.sleep (time - r.now))).1.round) r

/-- The times up to some other at which the sleep of a task ends, the first first. -/
def alarms (r : TimerRun σ π) (time : Nat) : List Nat :=
  ((Agenda.ofList (r.tasks.map fun t => t.scheduled r.now)).due time).map Scheduled.due

/-- Does one thing and lets all tasks run. The clock stops wherever the sleep of a task ends, and at
the end. So the tasks keep up with the clock: whatever is due at a time has fired before the next
thing is done at that time. -/
def step (r : TimerRun σ π) : TimerStep σ π → TimerRun σ π × Option Bool
  | .sleep delay => (r.visit (r.alarms (r.now + delay) ++ [r.now + delay]), none)
  | s =>
    let (r, answer) := r.act s
    (r.round, answer)

end TimerRun

end NavigationBar
