import Mathlib.Logic.Relation
import NavigationBar.Bar.Run
import NavigationBar.Proofs.Bar.Composing
import NavigationBar.Proofs.Gesture.Inputs

/-!
# What a bar does with its executor

Whatever happens to a bar, its executor carries out one of a few kinds of plans, lets time pass, or
is told when to vibrate. So what each of these preserves holds in every run of a bar, with whichever
detectors are attached to it.
-/

open Relation

namespace NavigationBar

/-- The plans of a bar while the popup of `current` counts as open: what an action does on some
occasion, that whichever popup is open is closed, and calls of services. -/
inductive Plan.Made (current : Option Nat) : Plan → Prop
  | action (h : Option Haptics) (c : Template.Context) (a : Option Action) (o : Occasion) :
    Made current (.of h current c a o)
  | closing : Made current { effects := Popup.closeAny current }
  | call (domain service : String) (data : Json) :
    Made current { effects := [.send (.callService domain service data)] }
  | nothing : Made current { effects := [] }

theorem Plan.Made.composed {current : Option Nat} {p : Plan} (hp : p.Made current) :
    Effect.Composed current p.effects := by
  cases hp with
  | action h c a o => exact composed_of h current c o a
  | closing => exact .closing current
  | call domain service data => exact .apart (by simp [Effect.IsApart, Event.IsApart])
  | nothing => exact .nothing

/-- A host that listens receives what is delivered. -/
theorem Outbox.sent_deliver {o : Outbox} (h : o.isOpen = true) (p : Scheduled Event → Bool) :
    (o.deliver p).sent = o.sent ++ (o.waiting.takeWhile p).map fun s => (s.due, s.value) := by
  simp [deliver, h]

namespace Executor

/-- What happens to the executor of a bar as long as its host listens. Other gestures may vibrate
from now on, and detectors take stamps from the clock; neither asks the executor. -/
inductive Moves : Executor → Executor → Prop
  | perform {x : Executor} {p : Plan} (h : p.Made x.openRoute) : Moves x (x.perform p).1
  | haptics (x : Executor) (haptics : Option Haptics) : Moves x { x with haptics }
  | clock (x : Executor) {clock : Clock} (h : clock.now = x.clock.now) : Moves x { x with clock }
  | deliverBefore {α : Type} (x : Executor) (a : Scheduled α) : Moves x (x.deliverBefore a)
  | settle (x : Executor) (time : Nat) : Moves x (x.settle time)

/-- The events that the host received, the first first. -/
def received (x : Executor) : List Event :=
  x.outbox.sent.map Prod.snd

/-- What an executor has become by bringing some effects about while its host listens. -/
structure Brought (x : Executor) (effects : List Effect) (y : Executor) : Prop where
  isOpen : y.outbox.isOpen = true
  now_eq : y.clock.now = x.clock.now
  sent_eq : y.outbox.sent = x.outbox.sent ++ (Effect.sent effects).map (x.clock.now, ·)
  openRoute_eq : y.openRoute = Effect.openAfter x.openRoute effects
  /-- What is on its way was on its way before, or is to be sent after its delay. -/
  waiting : ∀ s ∈ y.outbox.waiting.entries,
    s ∈ x.outbox.waiting.entries ∨
      ∃ delay, .sendLater delay s.value ∈ effects ∧ s.due = x.clock.now + delay

variable {x y : Executor} {f : Effect} {effects : List Effect}

theorem Brought.received_eq (h : x.Brought effects y) :
    y.received = x.received ++ Effect.sent effects := by
  simp [received, h.sent_eq, Function.comp_def]

/-- A host that listens refuses nothing, so every effect is brought about. -/
theorem brought_bringAll (h : x.outbox.isOpen = true) (effects : List Effect) :
    x.Brought effects (x.bringAll effects).1 ∧ (x.bringAll effects).2 = true := by
  induction effects generalizing x with
  | nil => exact ⟨⟨h, rfl, (List.append_nil _).symm, rfl, fun s hs => .inl hs⟩, rfl⟩
  | cons f effects ih =>
    have hlater : ∀ s : Scheduled Event,
        (∃ delay, .sendLater delay s.value ∈ effects ∧ s.due = x.clock.now + delay) →
          ∃ delay, .sendLater delay s.value ∈ f :: effects ∧ s.due = x.clock.now + delay :=
      fun s => Exists.imp fun delay => And.imp_left (List.mem_cons_of_mem f)
    cases f with
    | setOpen route =>
      obtain ⟨hb, hdone⟩ := ih (x := { x with openRoute := route }) h
      refine ⟨⟨hb.isOpen, hb.now_eq, hb.sent_eq, hb.openRoute_eq, fun s hs => ?_⟩, hdone⟩
      exact (hb.waiting s hs).imp_right (hlater s)
    | send e =>
      have hbring : x.bring? (.send e) =
          some { x with outbox.sent := x.outbox.sent ++ [(x.clock.now, e)] } := by
        simp [bring?, Outbox.send?, h]
      rw [bringAll, hbring]
      obtain ⟨hb, hdone⟩ :=
        ih (x := { x with outbox.sent := x.outbox.sent ++ [(x.clock.now, e)] }) h
      refine ⟨⟨hb.isOpen, hb.now_eq, ?_, hb.openRoute_eq, fun s hs => ?_⟩, hdone⟩
      · rw [hb.sent_eq]
        simp [Effect.sent, Effect.sent?]
      · exact (hb.waiting s hs).imp_right (hlater s)
    | sendLater delay e =>
      obtain ⟨hb, hdone⟩ := ih
        (x := { x with outbox := x.outbox.sendLater x.clock delay e, clock := x.clock.tick }) h
      refine ⟨⟨hb.isOpen, hb.now_eq, hb.sent_eq, hb.openRoute_eq, fun s hs => ?_⟩, hdone⟩
      rcases hb.waiting s hs with hs | ⟨delay', hd, hdue⟩
      · rcases Agenda.mem_add.1 hs with rfl | hs
        · exact .inr ⟨delay, .head _, rfl⟩
        · exact .inl hs
      · exact .inr ⟨delay', .tail _ hd, hdue⟩

/-- What each of some effects keeps is kept by all of them, or by as many as the host takes. -/
theorem bringAll_induction {P : Executor → Prop}
    (hstep : ∀ y z e, e ∈ effects → y.bring? e = some z → P y → P z) (hx : P x) :
    P (x.bringAll effects).1 := by
  induction effects generalizing x with
  | nil => exact hx
  | cons e effects ih =>
    rw [bringAll]
    cases hbring : x.bring? e with
    | none => exact hx
    | some y =>
      have hy := hstep x y e List.mem_cons_self hbring hx
      exact ih (fun y z f hf => hstep y z f (List.mem_cons_of_mem e hf)) hy

/-- What it comes to that one effect is brought about. -/
theorem bring?_eq_some (h : x.bring? f = some y) :
    y.haptics = x.haptics ∧ y.clock.now = x.clock.now ∧
      (y.openRoute = x.openRoute ∨ f = .setOpen y.openRoute) := by
  cases f with
  | setOpen route =>
    obtain rfl := Option.some.inj h
    exact ⟨rfl, rfl, Or.inr rfl⟩
  | send e =>
    obtain ⟨outbox, -, rfl⟩ := Option.map_eq_some_iff.mp h
    exact ⟨rfl, rfl, Or.inl rfl⟩
  | sendLater delay e =>
    obtain rfl := Option.some.inj h
    exact ⟨rfl, rfl, Or.inl rfl⟩

end Executor

/-! ## Detectors and the clock

A detector may take stamps from the clock, but does not set it. -/

namespace Detector

variable (d : Detector) (bound : Option Bindings) (c : Clock)

theorem clock_down (target : Target) (p : Point) :
    (d.down bound c target p).2 = c ∨ (d.down bound c target p).2 = c.tick := by
  cases hd : d.isDetached with
  | true =>
    rw [down, if_pos hd]
    exact .inl rfl
  | false =>
    rw [down_of_attached hd]
    split
    · exact .inr rfl
    · exact .inl rfl

theorem clock_up (target : Target) :
    (d.up bound c target).2.1 = c ∨ (d.up bound c target).2.1 = c.tick := by
  cases hd : d.isDetached with
  | true =>
    rw [up, if_pos hd]
    exact .inl rfl
  | false =>
    have hrelease := release_up hd bound c target
    generalize d.up bound c target = out at hrelease ⊢
    cases hrelease with
    | deferred => exact .inr rfl
    | _ => exact .inl rfl

/-- An input takes at most one stamp. -/
theorem clock_handle (i : Input) :
    (d.handle bound c i).2.1 = c ∨ (d.handle bound c i).2.1 = c.tick := by
  cases i with
  | down target p => exact d.clock_down bound c target p
  | up target => exact d.clock_up bound c target
  | move p | cancel | leave | detach | setBindings b => exact Or.inl rfl

theorem now_handle (i : Input) : (d.handle bound c i).2.1.now = c.now := by
  rcases d.clock_handle bound c i with h | h
  · exact congrArg Clock.now h
  · rw [h, Clock.tick]

end Detector

/-! ## Steps of a bar -/

namespace Bar

variable (b : Bar)

theorem moves_dispatch (p : Place) (g : Gesture) (target : Target) :
    ReflTransGen Executor.Moves b.executor (b.dispatch p g target).1.executor := by
  unfold dispatch
  split
  · exact .refl
  · exact .single (.perform (.action ..))

theorem moves_closePopup : Executor.Moves b.executor b.closePopup.1.executor :=
  .perform .closing

theorem moves_setConfig (c : Config) :
    ReflTransGen Executor.Moves b.executor (b.setConfig c).1.executor :=
  .head (.haptics b.executor c.haptics) (.single (.perform .closing))

theorem moves_playPause : ReflTransGen Executor.Moves b.executor b.playPause.1.executor := by
  unfold playPause
  split
  · rename_i id _
    cases b.snapshot.entity? id with
    | none => exact .single (.perform .nothing)
    | some e => exact .single (.perform (.call ..))
  · exact .refl

theorem moves_nextTrack : ReflTransGen Executor.Moves b.executor b.nextTrack.1.executor := by
  unfold nextTrack
  split
  · exact .single (.perform (.call ..))
  · exact .refl

end Bar

namespace BarRun

/-- The run of a new bar. -/
def started (config : Config) : BarRun :=
  { bar := .ofConfig config }

/-- The run after several things were done, one after the other. -/
def run (r : BarRun) (steps : List BarStep) : BarRun :=
  steps.foldl (fun r s => (r.step s).1) r

variable (r : BarRun)

theorem moves_reported (a : Attached) (report : Option Recognition) :
    ReflTransGen Executor.Moves r.bar.executor (r.reported a report).bar.executor := by
  cases report with
  | none => exact .refl
  | some g => exact r.bar.moves_dispatch a.place g.gesture g.target

theorem moves_input (id : String) (i : Detector.Input) :
    ReflTransGen Executor.Moves r.bar.executor (r.input id i).bar.executor := by
  unfold input
  split
  · exact .refl
  · rename_i a _
    have hnow := a.detector.now_handle (some (r.bar.bindings a.place)) r.clock i
    generalize a.detector.handle (some (r.bar.bindings a.place)) r.clock i = handled at hnow ⊢
    obtain ⟨d, clock, report⟩ := handled
    refine .head (.clock r.bar.executor hnow) ?_
    exact moves_reported { r.put a d with bar.executor.clock := clock } a report

theorem moves_wake (e : Scheduled (String × Slot)) :
    ReflTransGen Executor.Moves r.bar.executor (r.wake e).bar.executor := by
  have hdelivered : Executor.Moves r.bar.executor (r.bar.executor.deliverBefore e) :=
    .deliverBefore ..
  unfold wake
  dsimp only
  split
  · exact .single hdelivered
  · let delivered : BarRun := { r with bar.executor := r.bar.executor.deliverBefore e }
    exact .head hdelivered (moves_reported (delivered.put _ _) _ _)

theorem moves_foldl_wake (wakes : List (Scheduled (String × Slot))) :
    ReflTransGen Executor.Moves r.bar.executor (wakes.foldl wake r).bar.executor := by
  induction wakes generalizing r with
  | nil => exact .refl
  | cons e wakes ih => exact (r.moves_wake e).trans (ih (r.wake e))

theorem moves_settle (time : Nat) :
    ReflTransGen Executor.Moves r.bar.executor (r.settle time).bar.executor :=
  (r.moves_foldl_wake (r.wakes time).entries).tail (.settle _ time)

theorem moves_act {s : BarStep} (h : s ≠ .hostGone) :
    ReflTransGen Executor.Moves r.bar.executor (r.act s).1.bar.executor := by
  cases s with
  | setConfig c => exact r.bar.moves_setConfig c
  | setSnapshot s => exact .refl
  | setWidth width => exact .refl
  | setEdited isEdited => exact .refl
  | dispatch p g target => exact r.bar.moves_dispatch p g target
  | closePopup => exact .single r.bar.moves_closePopup
  | playPause => exact r.bar.moves_playPause
  | nextTrack => exact r.bar.moves_nextTrack
  | attach id p => exact .refl
  | drop id => exact .refl
  | input id i => exact r.moves_input id i
  | hostGone => exact absurd rfl h
  | sleep delay => exact r.moves_settle _

theorem moves_step {s : BarStep} (h : s ≠ .hostGone) :
    ReflTransGen Executor.Moves r.bar.executor (r.step s).1.bar.executor :=
  (r.moves_act h).trans (moves_settle _ _)

/-- What happens to an executor in a run of its bar is a sequence of moves. -/
theorem moves_run {steps : List BarStep} (h : .hostGone ∉ steps) :
    ReflTransGen Executor.Moves r.bar.executor (r.run steps).bar.executor := by
  induction steps generalizing r with
  | nil => exact .refl
  | cons s steps ih =>
    rw [List.mem_cons, not_or] at h
    exact (r.moves_step (Ne.symm h.1)).trans (ih (r.step s).1 h.2)

end BarRun

end NavigationBar
