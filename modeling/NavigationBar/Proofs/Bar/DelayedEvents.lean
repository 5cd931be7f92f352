import NavigationBar.Proofs.Bar.Relaying
import NavigationBar.Proofs.Bar.RemovedPopups

/-!
# No delayed event is lost

Popups are closed on many occasions and actions of the host are called for at any place, by gestures
that are made and by gestures that detectors tell apart. Any number of events is on its way at a
time, with two delays, and the bar gets other configurations in the meantime. Still the host
receives every one of these events once, in its turn and after its delay.
-/

namespace NavigationBar

open Event

/-! ## Executors -/

namespace Executor

/-- Popups are taken off the page, or are going to be, for those that were closed, and actions of
the host are run for those that were called for. -/
structure Accounts (x : Executor) (calls : List (Nat × Event)) : Prop where
  removals : x.Relays removed? Popup.closingTime (picked closed? x.outbox.sent)
  actions : x.Relays action? Plan.hostDelay calls
  /-- No popup is going to be closed. -/
  unclosed : ∀ s ∈ x.outbox.waiting.entries, closed? s.value = none

variable {x : Executor} {calls : List (Nat × Event)}

theorem Accounts.perform (h : x.Accounts calls) {p : Plan} (hp : Effect.Dismisses p.effects)
    (ha : ∀ e ∈ p.effects, e.Delays action? Plan.hostDelay) :
    (x.perform p).1.Accounts
      (calls ++ (Effect.ordered action? p.effects).map (x.clock.now, ·)) := by
  obtain ⟨hb, -⟩ := brought_bringAll h.removals.isOpen p.effects
  show (x.bringAll p.effects).1.Accounts _
  refine ⟨?_, h.actions.bringAll ha, fun s hs => ?_⟩
  · have hremovals := h.removals.bringAll hp.delays
    rw [hp.ordered_eq, ← picked_at, ← picked_append, ← hb.sent_eq] at hremovals
    exact hremovals
  · rcases hb.waiting s hs with hs | ⟨delay, hlater, -⟩
    · exact h.unclosed s hs
    · exact List.filterMap_eq_nil_iff.mp hp.not_later _ hlater

/-- A plan of a bar without an action of the host calls for nothing. -/
theorem Accounts.perform_avoiding (h : x.Accounts calls) {p : Plan}
    (hp : Effect.Dismisses p.effects) (ha : ∀ e ∈ p.effects, e.Avoids action?) :
    (x.perform p).1.Accounts calls := by
  have hperform := h.perform hp fun e he => (ha e he).delays _
  rwa [Effect.ordered_of_avoids ha, List.map_nil, List.append_nil] at hperform

theorem Accounts.call (h : x.Accounts calls) (domain service : String) (data : Json) :
    (x.perform { effects := [.send (.callService domain service data)] }).1.Accounts calls :=
  h.perform_avoiding (Effect.dismisses_apart (by simp [Effect.IsApart, Event.IsApart]))
    (by simp [Effect.Avoids, action?])

theorem Accounts.execute (h : x.Accounts calls) (c : Template.Context) (a : Option Action)
    (o : Occasion) : (x.execute c a o).1.Accounts
      (calls ++ (Plan.called? o.gesture a).toList.map (x.clock.now, ·)) := by
  obtain ⟨hdelays, hordered⟩ := Plan.delays_of_and_ordered_of x.haptics x.openRoute c o a
  have hperform := h.perform (Plan.composed_of x.haptics x.openRoute c o a).dismisses hdelays
  rwa [hordered] at hperform

theorem Accounts.deliver (h : x.Accounts calls) (p : Scheduled Event → Bool) (time : Nat) :
    { x with outbox := x.outbox.deliver p, clock := x.clock.advance time }.Accounts calls := by
  refine ⟨?_, h.actions.deliver p time, fun s hs => ?_⟩
  · have hnone : picked closed? ((x.outbox.waiting.takeWhile p).map fun s => (s.due, s.value)) =
        [] := by
      refine picked_eq_nil fun q hq => ?_
      obtain ⟨s, hs, rfl⟩ := List.mem_map.mp hq
      exact h.unclosed s ((List.takeWhile_sublist _).subset hs)
    show Relays _ _ _ (picked closed? (x.outbox.deliver p).sent)
    rw [Outbox.sent_deliver h.removals.isOpen, picked_append, hnone, List.append_nil]
    exact h.removals.deliver p time
  · exact h.unclosed s ((List.dropWhile_sublist _).subset hs)

/-- Neither the popup that counts as open nor the gestures that vibrate play a part. -/
theorem Accounts.stamped {y : Executor} (h : x.Accounts calls) (houtbox : y.outbox = x.outbox)
    (hnow : y.clock.now = x.clock.now) (hstamp : x.clock.stamp ≤ y.clock.stamp) :
    y.Accounts calls where
  removals := by
    rw [houtbox]
    exact h.removals.stamped houtbox hnow hstamp
  actions := h.actions.stamped houtbox hnow hstamp
  unclosed := by
    rw [houtbox]
    exact h.unclosed

theorem now_bringAll (x : Executor) (effects : List Effect) :
    (x.bringAll effects).1.clock.now = x.clock.now := by
  refine bringAll_induction (P := fun y => y.clock.now = x.clock.now) ?_ rfl
  intro y z e _ hbring hy
  exact (bring?_eq_some hbring).2.1.trans hy

end Executor

theorem Detector.stamp_handle (d : Detector) (bound : Option Bindings) (c : Clock) (i : Input) :
    c.stamp ≤ (d.handle bound c i).2.1.stamp := by
  rcases d.clock_handle bound c i with h | h <;> rw [h]
  exact Nat.le_succ c.stamp

/-! ## Bars -/

namespace Bar

/-- The event by which the host is to run an action of its own for a gesture on a place, if the
gesture finds one there, with the time. -/
def calls (b : Bar) (p : Place) (g : Gesture) : List (Nat × Event) :=
  match b.lookup p g with
  | .ok (a, _) => (Plan.called? g a).toList.map (b.executor.clock.now, ·)
  | .error _ => []

variable {b : Bar} {before : List (Nat × Event)}

/-- Of what carries its actions out, only the time matters. -/
theorem calls_of_now_eq {x : Executor} (h : x.clock.now = b.executor.clock.now) (p : Place)
    (g : Gesture) : { b with executor := x }.calls p g = b.calls p g := by
  have hlookup : { b with executor := x }.lookup p g = b.lookup p g := by
    cases p <;> rfl
  unfold Bar.calls
  rw [hlookup, h]

theorem accounts_dispatch (h : b.executor.Accounts before) (p : Place) (g : Gesture)
    (target : Target) :
    (b.dispatch p g target).1.executor.Accounts (before ++ b.calls p g) := by
  unfold dispatch Bar.calls
  cases b.lookup p g with
  | error f =>
    dsimp only
    rwa [List.append_nil]
  | ok found =>
    obtain ⟨a, owner⟩ := found
    exact h.execute b.context a _

theorem accounts_closePopup (h : b.executor.Accounts before) :
    b.closePopup.1.executor.Accounts before :=
  h.perform_avoiding (Effect.dismisses_closeAny b.executor.openRoute)
    (Plan.avoids_closeAny b.executor.openRoute)

theorem accounts_setConfig (h : b.executor.Accounts before) (c : Config) :
    (b.setConfig c).1.executor.Accounts before :=
  accounts_closePopup
    (b := { b with config := c, executor := { b.executor with haptics := c.haptics } })
    (h.stamped rfl rfl le_rfl)

theorem accounts_playPause (h : b.executor.Accounts before) :
    b.playPause.1.executor.Accounts before := by
  unfold playPause
  split
  · rename_i id _
    cases b.snapshot.entity? id with
    | none =>
      exact h.perform_avoiding (p := { effects := [] }) (Effect.dismisses_apart (by simp)) (by simp)
    | some e => exact h.call _ _ _
  · exact h

theorem accounts_nextTrack (h : b.executor.Accounts before) :
    b.nextTrack.1.executor.Accounts before := by
  unfold nextTrack
  split
  · exact h.call _ _ _
  · exact h

theorem now_dispatch (b : Bar) (p : Place) (g : Gesture) (target : Target) :
    (b.dispatch p g target).1.executor.clock.now = b.executor.clock.now := by
  unfold dispatch
  cases b.lookup p g with
  | error f => rfl
  | ok found =>
    obtain ⟨a, owner⟩ := found
    exact b.executor.now_bringAll
      (Plan.of b.executor.haptics b.executor.openRoute b.context a ⟨target, owner, g⟩).effects

end Bar

/-! ## Runs -/

namespace BarRun

variable {r : BarRun} {before : List (Nat × Event)}

/-! ### What is called for -/

section Calls

variable (r : BarRun)

/-- What is called for by what a detector reports. -/
def callsOfReport (a : Attached) : Option Recognition → List (Nat × Event)
  | some g => r.bar.calls a.place g.gesture
  | none => []

/-- What is called for when something is done with a detector. -/
def callsOfInput (id : String) (i : Detector.Input) : List (Nat × Event) :=
  match r.detector? id with
  | none => []
  | some a =>
    r.callsOfReport a (a.detector.handle (some (r.bar.bindings a.place)) r.clock i).2.2

/-- What is called for when a timer of a detector fires. -/
def callsOfWake (e : Scheduled (String × Slot)) : List (Nat × Event) :=
  let r : BarRun := { r with bar.executor := r.bar.executor.deliverBefore e }
  match r.detector? e.value.1 with
  | none => []
  | some a =>
    r.callsOfReport a
      (a.detector.wake (some (r.bar.bindings a.place)) e.stamp e.value.2).2

/-- What is called for when timers fire one after the other. -/
def callsOfWakes (r : BarRun) : List (Scheduled (String × Slot)) → List (Nat × Event)
  | [] => []
  | e :: wakes => r.callsOfWake e ++ (r.wake e).callsOfWakes wakes

/-- What is called for by the timers that are due by a time. -/
def callsUntil (time : Nat) : List (Nat × Event) :=
  r.callsOfWakes (r.wakes time).entries

/-- What is called for by one thing that is done, before anything that is due. -/
def callsOfAct : BarStep → List (Nat × Event)
  | .dispatch p g _ => r.bar.calls p g
  | .input id i => r.callsOfInput id i
  | .sleep delay => r.callsUntil (r.clock.now + delay)
  | _ => []

/-- What is called for by one thing that is done, and then by what is due. -/
def callsOfStep (s : BarStep) : List (Nat × Event) :=
  let after := (r.act s).1
  r.callsOfAct s ++ after.callsUntil after.clock.now

/-- The actions of the host's own that are called for when several things are done one after the
other, the first first: by gestures that are made, and by those that detectors tell apart. -/
def calls (r : BarRun) : List BarStep → List (Nat × Event)
  | [] => []
  | s :: steps => r.callsOfStep s ++ (r.step s).1.calls steps

end Calls

theorem accounts_reported (h : r.bar.executor.Accounts before) (a : Attached)
    (report : Option Recognition) :
    (r.reported a report).bar.executor.Accounts (before ++ r.callsOfReport a report) := by
  cases report with
  | none =>
    show r.bar.executor.Accounts (before ++ [])
    rwa [List.append_nil]
  | some g => exact Bar.accounts_dispatch h a.place g.gesture g.target

theorem accounts_input (h : r.bar.executor.Accounts before) (id : String) (i : Detector.Input) :
    (r.input id i).bar.executor.Accounts (before ++ r.callsOfInput id i) := by
  unfold input callsOfInput
  cases r.detector? id with
  | none =>
    dsimp only
    rwa [List.append_nil]
  | some a =>
    have hnow := a.detector.now_handle (some (r.bar.bindings a.place)) r.clock i
    have hstamp := a.detector.stamp_handle (some (r.bar.bindings a.place)) r.clock i
    dsimp only
    generalize a.detector.handle (some (r.bar.bindings a.place)) r.clock i = handled
      at hnow hstamp ⊢
    obtain ⟨d, clock, report⟩ := handled
    have hticked := accounts_reported (r := { r.put a d with bar.executor.clock := clock })
      (h.stamped rfl hnow hstamp) a report
    -- The detector may have taken stamps from the clock. What is called for depends on its time.
    have hcalls : { r.put a d with bar.executor.clock := clock }.callsOfReport a report =
        r.callsOfReport a report := by
      cases report with
      | none => rfl
      | some g => exact Bar.calls_of_now_eq hnow a.place g.gesture
    rwa [hcalls] at hticked

theorem accounts_wake (h : r.bar.executor.Accounts before) (e : Scheduled (String × Slot)) :
    (r.wake e).bar.executor.Accounts (before ++ r.callsOfWake e) := by
  have hdelivered := h.deliver (fun s => s.NotAfter e) e.due
  let delivered : BarRun := { r with bar.executor := r.bar.executor.deliverBefore e }
  unfold wake callsOfWake
  dsimp only
  generalize BarRun.detector? _ e.value.1 = found
  cases found with
  | none =>
    show delivered.bar.executor.Accounts (before ++ [])
    rw [List.append_nil]
    exact hdelivered
  | some a => exact accounts_reported (r := delivered.put a _) hdelivered a _

theorem accounts_wakes (h : r.bar.executor.Accounts before)
    (wakes : List (Scheduled (String × Slot))) :
    (wakes.foldl wake r).bar.executor.Accounts (before ++ r.callsOfWakes wakes) := by
  induction wakes generalizing r before with
  | nil =>
    show r.bar.executor.Accounts (before ++ [])
    rwa [List.append_nil]
  | cons e wakes ih =>
    rw [callsOfWakes, ← List.append_assoc]
    exact ih (accounts_wake h e)

theorem accounts_settle (h : r.bar.executor.Accounts before) (time : Nat) :
    (r.settle time).bar.executor.Accounts (before ++ r.callsUntil time) :=
  (accounts_wakes h (r.wakes time).entries).deliver (fun s => s.due ≤ time) time

theorem accounts_act (h : r.bar.executor.Accounts before) {s : BarStep} (hs : s ≠ .hostGone) :
    (r.act s).1.bar.executor.Accounts (before ++ r.callsOfAct s) := by
  have hquiet : r.callsOfAct s = [] → (r.act s).1.bar.executor.Accounts before →
      (r.act s).1.bar.executor.Accounts (before ++ r.callsOfAct s) := by
    intro hnone hact
    rwa [hnone, List.append_nil]
  cases s with
  | dispatch p g target => exact Bar.accounts_dispatch h p g target
  | input id i => exact accounts_input h id i
  | sleep delay => exact accounts_settle h _
  | hostGone => exact absurd rfl hs
  | setConfig c => exact hquiet rfl (Bar.accounts_setConfig h c)
  | closePopup => exact hquiet rfl (Bar.accounts_closePopup h)
  | playPause => exact hquiet rfl (Bar.accounts_playPause h)
  | nextTrack => exact hquiet rfl (Bar.accounts_nextTrack h)
  | setSnapshot s => exact hquiet rfl h
  | setWidth width => exact hquiet rfl h
  | setEdited isEdited => exact hquiet rfl h
  | attach id p => exact hquiet rfl h
  | drop id => exact hquiet rfl h

theorem accounts_step (h : r.bar.executor.Accounts before) {s : BarStep} (hs : s ≠ .hostGone) :
    (r.step s).1.bar.executor.Accounts (before ++ r.callsOfStep s) := by
  have hact := accounts_act h hs
  rw [callsOfStep, ← List.append_assoc]
  exact accounts_settle hact _

/-- All that is called for in a run is accounted for. -/
theorem accounts_run (h : r.bar.executor.Accounts before) {steps : List BarStep}
    (hsteps : .hostGone ∉ steps) :
    (r.run steps).bar.executor.Accounts (before ++ r.calls steps) := by
  induction steps generalizing r before with
  | nil =>
    show r.bar.executor.Accounts (before ++ [])
    rwa [List.append_nil]
  | cons s steps ih =>
    rw [List.mem_cons, not_or] at hsteps
    rw [calls, ← List.append_assoc]
    exact ih (accounts_step h (Ne.symm hsteps.1)) hsteps.2

/-! ### Nothing is late -/

theorem now_reported (r : BarRun) (a : Attached) (report : Option Recognition) :
    (r.reported a report).clock.now = r.clock.now := by
  cases report with
  | none => rfl
  | some g => exact r.bar.now_dispatch a.place g.gesture g.target

theorem now_wake (r : BarRun) (e : Scheduled (String × Slot)) :
    (r.wake e).clock.now = max r.clock.now e.due := by
  unfold wake
  dsimp only
  split
  · rfl
  · exact now_reported _ _ _

theorem due_le_of_mem_wakes {time : Nat} {e : Scheduled (String × Slot)}
    (h : e ∈ (r.wakes time).entries) : e.due ≤ time := by
  have hmem := Agenda.mem_ofList.mp h
  obtain ⟨a, -, ha⟩ := List.mem_flatMap.mp hmem
  obtain ⟨timer, htimer, rfl⟩ := List.mem_map.mp ha
  have hdue := List.mem_takeWhile_imp htimer
  show timer.due ≤ time
  simpa using hdue

theorem now_wakes_le {time : Nat} {wakes : List (Scheduled (String × Slot))}
    (hr : r.clock.now ≤ time) (h : ∀ e ∈ wakes, e.due ≤ time) :
    (wakes.foldl wake r).clock.now ≤ time := by
  induction wakes generalizing r with
  | nil => exact hr
  | cons e wakes ih =>
    obtain ⟨he, hwakes⟩ := List.forall_mem_cons.mp h
    refine ih ?_ hwakes
    rw [now_wake]
    exact max_le hr he

/-- After each step, all that is on its way arrives later. -/
theorem lt_due_step (r : BarRun) (s : BarStep) :
    let after := (r.step s).1
    ∀ e ∈ after.bar.executor.outbox.waiting.entries, after.clock.now < e.due := by
  intro after e he
  let acted := (r.act s).1
  -- The timers that fire are due, so none of them carries the clock beyond where the step left it.
  have hnow : after.clock.now ≤ acted.clock.now :=
    max_le (now_wakes_le le_rfl fun e he => due_le_of_mem_wakes he) le_rfl
  have hnot : ¬ e.due ≤ acted.clock.now := by
    refine Scheduled.not_of_mem_dropWhile (p := fun e => e.due ≤ acted.clock.now) ?_
      (Agenda.ordered _) e he
    intro a b hab hb
    unfold Scheduled.NotAfter at hab
    omega
  omega

theorem lt_due_run {steps : List BarStep}
    (h : ∀ e ∈ r.bar.executor.outbox.waiting.entries, r.clock.now < e.due) :
    ∀ e ∈ (r.run steps).bar.executor.outbox.waiting.entries, (r.run steps).clock.now < e.due := by
  induction steps generalizing r with
  | nil => exact h
  | cons s steps ih => exact ih (r.lt_due_step s)

theorem accounts_started (config : Config) : (started config).bar.executor.Accounts [] := by
  have hrelays : ∀ {β : Type} (pick : Event → Option β) (delay : Nat),
      (started config).bar.executor.Relays pick delay [] := by
    intro β pick delay
    exact ⟨rfl, by simp [started, Bar.ofConfig, Agenda.empty],
      by simp [started, Bar.ofConfig, Agenda.empty], rfl⟩
  exact ⟨hrelays _ _, hrelays _ _, by simp [started, Bar.ofConfig, Agenda.empty]⟩

/-- Whatever is done with a bar while its host listens: by each time that has passed, the host was
told to take popups off the page for exactly the popups that were closed 200 milliseconds before,
each at its time and in their order; and it was told to run exactly the actions of its own that were
called for 10 milliseconds before, each at its time and in the order of the calls. What the host
received stands in the order of its times. -/
theorem delivered_after_delay (config : Config) {steps : List BarStep} (h : .hostGone ∉ steps)
    {time : Nat} (htime : time ≤ ((started config).run steps).clock.now) :
    let sent := ((started config).run steps).bar.executor.outbox.sent
    (picked removed? sent).filter (fun p => p.1 ≤ time) =
      ((picked closed? sent).filter fun p => p.1 + 200 ≤ time).map (fun p => (p.1 + 200, p.2)) ∧
    (picked action? sent).filter (fun p => p.1 ≤ time) =
      (((started config).calls steps).filter fun p => p.1 + 10 ≤ time).map
        (fun p => (p.1 + 10, p.2)) ∧
    sent.Pairwise fun p q => p.1 ≤ q.1 := by
  intro sent
  have haccounts := accounts_run (accounts_started config) h
  rw [List.nil_append] at haccounts
  have hlate : ∀ e ∈ ((started config).run steps).bar.executor.outbox.waiting.entries,
      time < e.due := by
    have hstarted : ∀ e ∈ (started config).bar.executor.outbox.waiting.entries,
        (started config).clock.now < e.due := by
      simp [started, Bar.ofConfig, Agenda.empty]
    exact fun e he => htime.trans_lt (lt_due_run hstarted e he)
  have hpunctual := (punctual_started config).moves ((started config).moves_run h)
  exact ⟨haccounts.removals.picked_sent hlate, haccounts.actions.picked_sent hlate,
    hpunctual.ordered⟩

/-- What the host is to do when the switch is tapped. -/
def toggling : Fields :=
  [("action", .string "toggle"), ("entity", .string "light.a")]

/-- A bar with a popup and with a switch that the host turns. -/
def popupAndSwitch : Config where
  routes := [popupRoute "/x", { item := { tapAction := some (.host toggling) } }]

/-- The popup is opened and closed. The switch is tapped in between, and again on a detector just
before the bar gets another configuration. -/
def switchedTwice : List BarStep :=
  [.attach "d" (.route 1), .dispatch (.route 0) .tap "a", .dispatch (.route 1) .tap "b",
    .closePopup, .sleep 20, .input "d" (.down "b" {}), .input "d" (.up "b"), .setConfig {},
    .sleep 200]

theorem delivered_after_delay_switched_twice :
    let run := (started popupAndSwitch).run switchedTwice
    let sent := run.bar.executor.outbox.sent
    let turned : Event := .action .tap
      (.object [("entity", .string "light.a"), ("tap_action", .object toggling)]) (some "light.a")
    run.clock.now = 220 ∧
    (started popupAndSwitch).calls switchedTwice = [(0, turned), (20, turned)] ∧
    (picked removed? sent).filter (fun p => p.1 ≤ 210) = [(200, 0)] ∧
    (picked action? sent).filter (fun p => p.1 ≤ 210) = [(10, turned), (30, turned)] := by
  intro run sent turned
  have hcalls : (started popupAndSwitch).calls switchedTwice = [(0, turned), (20, turned)] := rfl
  have hclosed : picked closed? sent = [(0, 0)] := rfl
  obtain ⟨hremoved, haction, -⟩ :=
    @delivered_after_delay popupAndSwitch switchedTwice (by simp [switchedTwice]) 210 (by decide)
  rw [hclosed] at hremoved
  rw [hcalls] at haction
  exact ⟨rfl, hcalls, hremoved, haction⟩

end BarRun

end NavigationBar
