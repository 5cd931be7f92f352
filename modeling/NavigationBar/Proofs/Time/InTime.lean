import NavigationBar.Proofs.Time.Rounds

/-!
# Timers fire when they should

What the slots, the generations and the sleeping tasks come to. No timer fires twice, and a task
that wakes up late touches nothing, whatever the schedule. As long as the tasks keep up with the
clock, what has fired can be told from what was done with the timers (`TimerRun.OnTime`); and there
is always a schedule in which they do.
-/

namespace NavigationBar

namespace TimerRun

open TimerStep
open DeadlineRun (Precedes)

variable {σ π : Type} [DecidableEq σ] {start : Nat} {steps : List (TimerStep σ π)}
  {r : TimerRun σ π} {d : DeadlineRun σ π} {e : Scheduled (σ × π)}

/-- A timer that was started in the course of some steps is due and was not taken away before. -/
def FiresIn (start : Nat) (steps : List (TimerStep σ π)) (e : Scheduled (σ × π)) : Prop :=
  ∃ before slot delay memory after, steps = before ++ .start slot delay memory :: after ∧
    e = timerAfter ⟨start, 1⟩ before slot delay memory ∧
    delay ≤ duration after ∧ Spares slot delay after

/-- Timers have done what they should have, if some steps have been done with them. -/
structure OnTime (start : Nat) (steps : List (TimerStep σ π)) (r : TimerRun σ π) : Prop where
  now_eq : r.now = start + duration steps
  /-- A timer that was started has fired when its delay had passed, if and only if it has passed
  and nothing took the timer away before that. -/
  fired_iff : ∀ before slot delay memory after,
    steps = before ++ .start slot delay memory :: after →
    (timerAfter ⟨start, 1⟩ before slot delay memory ∈ r.fired ↔
      delay ≤ duration after ∧ Spares slot delay after)
  /-- Nothing else has fired. -/
  started : ∀ e ∈ r.fired, FiresIn start steps e
  /-- A cancel of a slot and a question about it are answered alike: whether a timer was started
  there that has not fired and that nothing took away. -/
  answer_iff : ∀ slot, ∃ answer, (r.act (.cancel slot)).2 = some answer ∧
    (r.act (.isActive slot)).2 = some answer ∧
    (answer = true ↔ ∃ before delay memory after,
      steps = before ++ .start slot delay memory :: after ∧
        timerAfter ⟨start, 1⟩ before slot delay memory ∉ r.fired ∧
        ∀ s ∈ after, s.takesAway slot = false)

/-- What has fired has fired in the list of deadlines too. -/
theorem Mirrors.firesIn (h : r.Mirrors d) (hd : d.Follows ⟨start, 1⟩ steps) (he : e ∈ r.fired) :
    FiresIn start steps e := by
  obtain ⟨delay, after, ⟨before, hsteps, hstart⟩, hle, hspare⟩ :=
    (hd.fired_iff e).1 ((h.fired_iff e).2 (.inl he))
  exact ⟨before, e.value.1, delay, e.value.2, after, hsteps, hstart, hle, hspare⟩

/-- Once the tasks have caught up with the clock, so have the timers. -/
theorem Mirrors.onTime (h : r.Mirrors d) (hd : d.Follows ⟨start, 1⟩ steps)
    (hcaught : r.CaughtUp) : OnTime start steps r := by
  have hfired_iff : ∀ before slot delay memory after,
      steps = before ++ .start slot delay memory :: after →
      (timerAfter ⟨start, 1⟩ before slot delay memory ∈ r.fired ↔
        delay ≤ duration after ∧ Spares slot delay after) :=
    fun before slot delay memory after hsteps =>
      (h.mem_fired_iff hcaught).symm.trans (hd.mem_fired_iff hsteps)
  refine ⟨?_, hfired_iff, fun e he => h.firesIn hd he, fun slot => ?_⟩
  · exact congrArg Clock.now (h.clock_eq.symm.trans hd.clock_eq)
  · refine ⟨r.isActive slot, congrArg some (r.snd_cancel slot), rfl, ?_⟩
    rw [h.isActive_eq hcaught, hd.isActive_iff]
    refine exists_congr fun before => exists_congr fun delay => exists_congr fun memory =>
      exists_congr fun after => and_congr_right fun hsteps => and_congr_left fun hall => ?_
    rw [hfired_iff before slot delay memory after hsteps, not_and]
    constructor
    · exact fun hlt hle => absurd hlt (Nat.not_lt_of_le hle)
    · intro hnot
      by_contra hle
      refine hnot (Nat.le_of_not_lt hle) ?_
      rintro first s rest rfl htakes
      exact absurd (hall s (by simp)) (by simp [htakes])

/-- The contract of timers, from the time `start` on.

* Whatever the schedule, no timer fires twice; and a task whose timer was cancelled or replaced
  neither fires nor touches the slots, whenever it wakes up.
* In every schedule in which the tasks keep up with the clock, what has fired was started, is due
  and was not taken away before. Whenever everything that is due has fired, as it has before
  anything else is done, the timers have done what they should have.
* Whatever is done with the timers, there is such a schedule, namely in rounds. What fires then does
  so in the order of the times at which it is due, and of the starts among timers that are due at
  the same time. -/
theorem fired_iff_due (start : Nat) :
    (∀ events : List (TimerEvent σ π),
      let r := ({ now := start } : TimerRun σ π).replay events
      (r.fired.map Scheduled.stamp).Nodup ∧
      ∀ token ∈ r.cancelled, ∀ first,
        (r.poll token first).slots = r.slots ∧ (r.poll token first).fired = r.fired) ∧
    (∀ events : List (TimerEvent σ π), ({ now := start } : TimerRun σ π).Prompt events →
      let r := ({ now := start } : TimerRun σ π).replay events
      (∀ e ∈ r.fired, FiresIn start (TimerEvent.steps events) e) ∧
      (r.CaughtUp → OnTime start (TimerEvent.steps events) r)) ∧
    ∀ steps : List (TimerStep σ π),
      let r := ({ now := start } : TimerRun σ π).run steps
      r.CaughtUp ∧ OnTime start steps r ∧ (r.fired.map Scheduled.stamp).Nodup ∧
      r.fired.Pairwise Precedes ∧ ∀ s, (r.step s).2 = (r.act s).2 := by
  refine ⟨fun events => ?_, fun events hprompt => ?_, fun steps => ?_⟩
  · have hsound := (sound_init (σ := σ) (π := π) start).replay events
    exact ⟨hsound.once, fun token htoken first => hsound.poll_of_cancelled htoken first⟩
  · have hmirrors := (mirrors_init (σ := σ) (π := π) start).replay hprompt
    have hfollows := DeadlineRun.follows_run ⟨start, 1⟩ (TimerEvent.steps events)
    exact ⟨fun e he => hmirrors.firesIn hfollows he, hmirrors.onTime hfollows⟩
  · have hmatches := matches_run start steps
    have hcaught := hmatches.idle.caughtUp
    have hordered := DeadlineRun.pairwise_run ⟨start, 1⟩ steps
    refine ⟨hcaught, hmatches.onTime (DeadlineRun.follows_run _ steps) hcaught, hmatches.once,
      hmatches.fired_eq ▸ hordered, fun s => ?_⟩
    cases s <;> rfl

/-- A timer is started anew while its task sleeps. The first task wakes up late and looks at its
sleep before its token: it finds another generation in the slot, and the timer in its place is the
one that fires. -/
theorem fired_iff_due_late_wakeup :
    let events : List (TimerEvent Nat Nat) :=
      [.act (.start 7 100 1), .poll 0 .alarm, .act (.sleep 50), .act (.start 7 100 2),
        .poll 1 .alarm, .act (.sleep 100), .poll 0 .alarm, .poll 1 .alarm]
    let r := ({} : TimerRun Nat Nat).replay events
    ({} : TimerRun Nat Nat).Prompt events ∧ r.CaughtUp ∧
      timerAfter ⟨0, 1⟩ [] 7 100 1 ∉ r.fired ∧
      timerAfter ⟨0, 1⟩ [.start 7 100 1, .sleep 50] 7 100 2 ∈ r.fired := by
  intro events r
  have hprompt : ({} : TimerRun Nat Nat).Prompt events := by decide
  have hcaught : r.CaughtUp := by decide
  obtain ⟨-, htimely, -⟩ := fired_iff_due (σ := Nat) (π := Nat) 0
  have hfired := ((htimely events hprompt).2 hcaught).fired_iff
  refine ⟨hprompt, hcaught, ?_, ?_⟩
  · rw [hfired [] 7 100 1 [.sleep 50, .start 7 100 2, .sleep 100] rfl]
    rintro ⟨-, hspares⟩
    exact absurd (hspares [.sleep 50] (.start 7 100 2) [.sleep 100] rfl rfl) (by decide)
  · rw [hfired [.start 7 100 1, .sleep 50] 7 100 2 [.sleep 100] rfl]
    exact ⟨Nat.le_refl _, spares_concat.2 ⟨spares_nil, by simp [takesAway]⟩⟩

end TimerRun

end NavigationBar
