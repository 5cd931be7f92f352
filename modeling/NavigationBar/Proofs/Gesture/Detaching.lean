import NavigationBar.Proofs.Gesture.OnePerRelease

/-!
# Detectors that were taken off

Taking a detector off drops whatever it was in the middle of: a press, a hold, taps that wait for
their window, a tap that could have become half of a double tap. Nothing brings any of it back.
Presses and releases are not looked at any more; moving, leaving and taking the pointer away find
nothing to change; bindings may be set, but nobody asks for them. So no timer is ever started again,
and without one nothing is reported, whatever is done and however long one waits.
-/

namespace NavigationBar

namespace DetectorRun

/-- The detector was taken off, and nothing was reported since `log` was. -/
structure Ended (log : List (Nat × Recognition)) (r : DetectorRun) : Prop where
  log_eq : r.log = log
  retired : r.detector.Retired

variable {log : List (Nat × Recognition)} {r : DetectorRun}

/-- Whatever the detector was in the middle of, taking it off ends it. -/
theorem ended_begun_detach (r : DetectorRun) : (r.begun (.input .detach)).Ended r.log := by
  have hnothing : r.begun (.input .detach) = { r with detector := r.detector.detach } :=
    reported_none _
  rw [hnothing]
  exact ⟨rfl, Detector.retired_detach r.detector⟩

/-! ## Steps -/

theorem Ended.due_eq (h : r.Ended log) (time : Nat) : r.detector.timers.due time = [] := by
  rw [h.retired.timers_eq]
  rfl

/-- Time passes, and nothing fires. -/
theorem Ended.settle (h : r.Ended log) (time : Nat) : (r.settle time).Ended log := by
  unfold DetectorRun.settle
  rw [h.due_eq]
  exact ⟨h.log_eq, h.retired⟩

/-- No input is answered, or makes the detector remember anything. -/
theorem Ended.begun (h : r.Ended log) (s : DetectorStep) : (r.begun s).Ended log := by
  rcases s with i | b | delay
  · obtain ⟨hretired, hanswer⟩ := h.retired.handle r.supply r.clock i
    refine ⟨?_, hretired⟩
    have hnone : r.answer? (.input i) = none := hanswer
    rw [log_begun, hnone, h.log_eq]
    exact List.append_nil log
  · exact ⟨h.log_eq, h.retired⟩
  · exact h

theorem Ended.act (h : r.Ended log) (s : DetectorStep) : (r.act s).Ended log := by
  rcases s with i | b | delay
  · exact h.begun (.input i)
  · exact h.begun (.setSupply b)
  · exact h.settle _

theorem Ended.step (h : r.Ended log) (s : DetectorStep) : (r.step s).Ended log :=
  (h.act s).settle _

theorem ended_step_detach (r : DetectorRun) : (r.step (.input .detach)).Ended r.log :=
  (ended_begun_detach r).settle _

/-- In the middle of a step, too, there is no timer that could fire. -/
theorem Ended.amid (h : r.Ended log) (s : DetectorStep) (count : Nat) :
    (r.amid s count).Ended log := by
  have hbegun := h.begun s
  unfold DetectorRun.amid
  rw [hbegun.due_eq, List.take_nil, List.foldl_nil]
  exact hbegun

/-! ## Runs -/

theorem Ended.run (h : r.Ended log) (steps : List DetectorStep) : (r.run steps).Ended log := by
  induction steps generalizing r with
  | nil => exact h
  | cons s steps ih => exact ih (h.step s)

/-- Taking a detector off is final, in whatever state the run is by then. Whatever is done with the
detector later, after every step and in the middle of one, nothing more is reported; the detector
waits for nothing, and knows of no press, no element, no hold and no tap. -/
theorem nothing_after_detach (r : DetectorRun) (more : List DetectorStep) :
    let detached := (r.step (.input .detach)).run more
    (detached.log = r.log ∧ detached.detector.Retired) ∧
    ∀ s count, (detached.amid s count).log = r.log ∧ (detached.amid s count).detector.Retired := by
  intro detached
  have hended : detached.Ended r.log := (ended_step_detach r).run more
  refine ⟨⟨hended.log_eq, hended.retired⟩, ?_⟩
  intro s count
  have hamid := hended.amid s count
  exact ⟨hamid.log_eq, hamid.retired⟩

end DetectorRun

end NavigationBar
