import Mathlib.Data.List.Induction
import NavigationBar.Proofs.Gesture.Settling

/-!
# What one step of a run does

A step is an input that is handled at once, or a while that passes; then everything fires that is
due. So what a step reports is the answer to its input and after that the reports of the timers that
fire. A detector that was taken off is left without a press, a tap or a timer.
-/

namespace NavigationBar

/-- How long a step takes. -/
def DetectorStep.delay : DetectorStep → Nat
  | sleep delay => delay
  | _ => 0

theorem DetectorStep.delay_input (i : Detector.Input) : (input i).delay = 0 := rfl

namespace DetectorRun

variable {r : DetectorRun}

/-- A run once the input of a step is handled, before time passes and timers fire. -/
def begun (r : DetectorRun) : DetectorStep → DetectorRun
  | .sleep _ => r
  | s => r.act s

theorem begun_down (r : DetectorRun) (target : Target) (p : Point) :
    r.begun (.input (.down target p)) =
      { r with
        detector := (r.detector.down r.supply r.clock target p).1
        clock := (r.detector.down r.supply r.clock target p).2 } :=
  reported_none _

theorem begun_up (r : DetectorRun) (target : Target) :
    r.begun (.input (.up target)) =
      { r with
        detector := (r.detector.up r.supply r.clock target).1
        clock := (r.detector.up r.supply r.clock target).2.1 }.reported
          (r.detector.up r.supply r.clock target).2.2 :=
  act_up r target

/-- What a step reports. -/
def reports (r : DetectorRun) (s : DetectorStep) : List (Nat × Recognition) :=
  (r.step s).log.drop r.log.length

theorem ready_begun (h : r.Settled) (s : DetectorStep) :
    (r.begun s).detector.timers.Ready (r.begun s).clock ∧
      (r.begun s).clock.now = r.clock.now := by
  cases s with
  | input i => exact Detector.ready_handle h.ready r.supply i
  | setSupply b => exact ⟨h.ready, rfl⟩
  | sleep delay => exact ⟨h.ready, rfl⟩

theorem Settled.step_eq_settle (h : r.Settled) (s : DetectorStep) :
    r.step s = (r.begun s).settle (r.clock.now + s.delay) := by
  have hnow := (ready_begun h s).2
  cases s with
  | input i =>
    rw [step_eq, show (r.act (.input i)).clock.now = r.clock.now from hnow]
    rfl
  | setSupply b => rfl
  | sleep delay =>
    have hs : (r.settle (r.clock.now + delay)).Settled :=
      settled_settle h.ready (Nat.le_add_right _ _)
    exact hs.settle_now

theorem Settled.clock_step (h : r.Settled) (s : DetectorStep) :
    (r.step s).clock.now = r.clock.now + s.delay := by
  obtain ⟨hready, hnow⟩ := ready_begun h s
  rw [h.step_eq_settle, settle_eq hready (by omega)]

theorem Settled.detector_step (h : r.Settled) (s : DetectorStep) :
    (r.step s).detector = (r.begun s).detector.afterFiring (r.begun s).supply
      ((r.begun s).detector.timers.due (r.clock.now + s.delay))
      ((r.begun s).detector.timers.after (r.clock.now + s.delay)) := by
  obtain ⟨hready, hnow⟩ := ready_begun h s
  rw [h.step_eq_settle, settle_eq hready (by omega)]

theorem Settled.log_step (h : r.Settled) (s : DetectorStep) :
    (r.step s).log = (r.begun s).log ++
      ((r.begun s).detector.timers.due (r.clock.now + s.delay)).filterMap
        ((r.begun s).detector.firing? (r.begun s).supply) := by
  obtain ⟨hready, hnow⟩ := ready_begun h s
  rw [h.step_eq_settle, settle_eq hready (by omega)]

/-- What the input of a step is answered with. -/
def answer? (r : DetectorRun) : DetectorStep → Option Recognition
  | .input i => (r.detector.handle r.supply r.clock i).2.2
  | _ => none

theorem log_begun (r : DetectorRun) (s : DetectorStep) :
    (r.begun s).log = r.log ++ ((r.answer? s).map fun g => ((r.begun s).clock.now, g)).toList := by
  cases s with
  | input i => rfl
  | setSupply b => exact (List.append_nil _).symm
  | sleep delay => exact (List.append_nil _).symm

/-- First the answer to the input, then the reports of the timers that fire. -/
theorem Settled.reports_eq (h : r.Settled) (s : DetectorStep) :
    r.reports s = ((r.answer? s).map fun g => (r.clock.now, g)).toList ++
      ((r.begun s).detector.timers.due (r.clock.now + s.delay)).filterMap
        ((r.begun s).detector.firing? (r.begun s).supply) := by
  rw [reports, h.log_step, log_begun, (ready_begun h s).2, List.append_assoc, List.drop_left]

/-! ## Runs -/

theorem Settled.run (h : r.Settled) (steps : List DetectorStep) : (r.run steps).Settled := by
  induction steps generalizing r with
  | nil => exact h
  | cons s steps ih => exact ih (h.step s)

theorem run_concat (r : DetectorRun) (steps : List DetectorStep) (s : DetectorStep) :
    r.run (steps ++ [s]) = (r.run steps).step s :=
  run_append r steps [s]

/-- A run whose detector has seen nothing yet. -/
def untouched (timing : GestureTiming) (mode : HoldMode) (bindings : Bindings)
    (supply : Option Bindings) (clock : Clock) : DetectorRun :=
  { clock, detector := { timing, mode, bindings }, supply }

theorem settled_untouched (timing : GestureTiming) (mode : HoldMode) (bindings : Bindings)
    (supply : Option Bindings) (clock : Clock) :
    (untouched timing mode bindings supply clock).Settled where
  ready := .empty clock
  later := by simp [untouched, Timers.pending, Agenda.empty]

end DetectorRun

/-! ## What never changes -/

namespace Detector

/-- No input changes the timing, or when holds are reported. -/
theorem handle_settings (d : Detector) (supply : Option Bindings) (c : Clock) (i : Input) :
    (d.handle supply c i).1.timing = d.timing ∧ (d.handle supply c i).1.mode = d.mode := by
  cases i with
  | down target p =>
    cases hd : d.isDetached with
    | true => simp [handle, down, hd]
    | false =>
      simp only [handle, down_of_attached hd]
      split <;> exact ⟨rfl, rfl⟩
  | move p =>
    rcases d.move_eq_or p with hmove | hmove <;> simp [handle, hmove]
  | up target =>
    cases hd : d.isDetached with
    | true => simp [handle, up, hd]
    | false =>
      obtain ⟨htiming, hmode, -⟩ := (release_up hd supply c target).detector
      exact ⟨htiming, hmode⟩
  | cancel => exact ⟨rfl, rfl⟩
  | leave => exact ⟨rfl, rfl⟩
  | detach => exact ⟨rfl, rfl⟩
  | setBindings b => exact ⟨rfl, rfl⟩

/-- A detector that watches no more has no press, no tap and no timer. -/
structure Retired (d : Detector) : Prop where
  /-- It watches no more. -/
  detached : d.isDetached = true
  /-- No press goes on. -/
  start_eq : d.start = none
  /-- It remembers no press. -/
  target_eq : d.target = none
  /-- There is no hold. -/
  isHold_eq : d.isHold = false
  /-- It remembers no tap. -/
  lastTap_eq : d.lastTap = none
  /-- It waits for nothing. -/
  timers_eq : d.timers = {}

theorem retired_detach (d : Detector) : d.detach.Retired :=
  ⟨rfl, rfl, rfl, rfl, rfl, rfl⟩

theorem Retired.handle {d : Detector} (h : d.Retired) (supply : Option Bindings) (c : Clock)
    (i : Input) : (d.handle supply c i).1.Retired ∧ (d.handle supply c i).2.2 = none := by
  have hcancel : d.timers.cancel .hold = {} := by
    rw [h.timers_eq]
    exact Timers.eq_of_pending rfl
  cases i with
  | down target p =>
    rw [Detector.handle, down, if_pos h.detached]
    exact ⟨h, rfl⟩
  | move p =>
    rw [Detector.handle, move, h.start_eq]
    exact ⟨h, rfl⟩
  | up target =>
    rw [Detector.handle, up, if_pos h.detached]
    exact ⟨h, rfl⟩
  | cancel => exact ⟨⟨h.detached, rfl, h.target_eq, rfl, h.lastTap_eq, hcancel⟩, rfl⟩
  | leave => exact ⟨⟨h.detached, rfl, h.target_eq, rfl, h.lastTap_eq, hcancel⟩, rfl⟩
  | detach => exact ⟨retired_detach d, rfl⟩
  | setBindings b =>
    exact ⟨⟨h.detached, h.start_eq, h.target_eq, h.isHold_eq, h.lastTap_eq, h.timers_eq⟩, rfl⟩

theorem attached_or_retired_handle {d : Detector} (h : d.isDetached = false ∨ d.Retired)
    (supply : Option Bindings) (c : Clock) (i : Input) :
    (d.handle supply c i).1.isDetached = false ∨ (d.handle supply c i).1.Retired := by
  rcases h with hd | hr
  · cases i with
    | down target p =>
      left
      simp only [handle, down_of_attached hd]
      split <;> exact hd
    | move p =>
      left
      rcases d.move_eq_or p with hmove | hmove <;> simpa [handle, hmove] using hd
    | up target => exact .inl ((release_up hd supply c target).detector.2.2.1.trans hd)
    | cancel => exact .inl hd
    | leave => exact .inl hd
    | detach => exact .inr (retired_detach d)
    | setBindings b => exact .inl hd
  · exact .inr (hr.handle supply c i).1

end Detector

namespace DetectorRun

theorem settings_begun (r : DetectorRun) (s : DetectorStep) :
    (r.begun s).detector.timing = r.detector.timing ∧
      (r.begun s).detector.mode = r.detector.mode := by
  cases s with
  | input i => exact Detector.handle_settings r.detector r.supply r.clock i
  | setSupply b => exact ⟨rfl, rfl⟩
  | sleep delay => exact ⟨rfl, rfl⟩

theorem Settled.settings_run {r : DetectorRun} (h : r.Settled) (steps : List DetectorStep) :
    (r.run steps).detector.timing = r.detector.timing ∧
      (r.run steps).detector.mode = r.detector.mode := by
  induction steps using List.reverseRecOn with
  | nil => exact ⟨rfl, rfl⟩
  | append_singleton steps s ih =>
    obtain ⟨htiming, hmode⟩ := settings_begun (r.run steps) s
    rw [run_concat, (h.run steps).detector_step]
    exact ⟨htiming.trans ih.1, hmode.trans ih.2⟩

theorem attached_or_retired_step {r : DetectorRun} (hs : r.Settled)
    (h : r.detector.isDetached = false ∨ r.detector.Retired) (s : DetectorStep) :
    (r.step s).detector.isDetached = false ∨ (r.step s).detector.Retired := by
  have hbegun : (r.begun s).detector.isDetached = false ∨ (r.begun s).detector.Retired := by
    cases s with
    | input i => exact Detector.attached_or_retired_handle h r.supply r.clock i
    | setSupply b => exact h
    | sleep delay => exact h
  rw [hs.detector_step]
  rcases hbegun with hd | hr
  · exact .inl hd
  · have hdue : (r.begun s).detector.timers.due (r.clock.now + s.delay) = [] := by
      rw [hr.timers_eq]
      rfl
    have hafter : (r.begun s).detector.timers.after (r.clock.now + s.delay) = {} := by
      rw [hr.timers_eq]
      exact Timers.eq_of_pending rfl
    rw [hdue, hafter]
    refine .inr ⟨hr.detached, hr.start_eq, hr.target_eq, ?_, hr.lastTap_eq, rfl⟩
    simp [Detector.afterFiring, Detector.holdFires, hr.isHold_eq]

theorem attached_or_retired_run {r : DetectorRun} (hs : r.Settled)
    (h : r.detector.isDetached = false ∨ r.detector.Retired) (steps : List DetectorStep) :
    (r.run steps).detector.isDetached = false ∨ (r.run steps).detector.Retired := by
  induction steps generalizing r with
  | nil => exact h
  | cons s steps ih => exact ih (hs.step s) (attached_or_retired_step hs h s)

end DetectorRun

end NavigationBar
