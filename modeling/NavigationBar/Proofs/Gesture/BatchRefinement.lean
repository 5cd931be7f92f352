import NavigationBar.Proofs.Gesture.Tracking

/-!
# Timers against the batch classifier

A detector that reports holds at the release, run on presses on one element, reports what the batch
classifier reads off the presses.
-/

namespace NavigationBar

namespace DetectorRun

variable {timing : GestureTiming} {b : Bindings} {target : Target}
variable {last : Option Nat} {live : Option (Point × Nat)} {r : DetectorRun}

/-! ## Releases -/

theorem Tracks.completesDoubleTap_released (h : r.Tracks timing b target last live) :
    (r.detector.released r.supply).completesDoubleTap r.clock.now target =
      pairs timing b last r.clock.now := by
  simp only [Detector.released, Detector.completesDoubleTap, h.lastTap_eq, h.timing_eq,
    h.bound_eq, pairs]
  cases last <;> simp

/-- A release leaves no hope for a hold. -/
theorem Tracks.release (h : r.Tracks timing b target last live) (last' : Option Nat)
    (clock : Clock) {tapDue : Option Nat} {timers : Timers Slot Unit}
    (hclock : clock.now = r.clock.now) (hready : timers.Ready clock)
    (hlast : ∀ time ∈ last', time ≤ r.clock.now) (hd : Deadlines target tapDue none timers)
    (isHold : Bool) (log : List (Nat × Recognition)) :
    DetectorRun.Watches timing b target last' tapDue none
      { r with
        clock
        detector := { r.detector.released r.supply with
          isHold, lastTap := last'.map (·, target), timers }
        log } where
  timing_eq := h.timing_eq
  mode_eq := h.mode_eq
  attached := h.attached
  bound_eq := (r.detector.getD_bound r.supply).trans h.bound_eq
  ready := hready
  lastTap_eq := rfl
  last_le := by rw [hclock]; exact hlast
  deadlines := hd

/-- A run that waits for nothing but a tap is tracked as soon as what is due has fired. -/
theorem Watches.tracks {tapDue : Option Nat} (h : r.Watches timing b target last tapDue none)
    (hhold : r.detector.isHold = false)
    (hdue : tapDue.filter (r.clock.now < ·) =
      (awaited timing b last).filter (r.clock.now < ·)) :
    (r.settle r.clock.now).Tracks timing b target last none ∧
      (r.settle r.clock.now).clock.now = r.clock.now ∧
      (r.settle r.clock.now).log = r.log ++ tapReport target (tapDue.filter (· ≤ r.clock.now)) := by
  obtain ⟨hw, hclock, -, hisHold, hlog⟩ := h.settle (Nat.le_refl _)
  refine ⟨⟨?_, ?_, nofun, nofun⟩, hclock, hlog⟩
  · rw [hclock, ← hdue]
    exact hw
  · rw [hisHold, hhold]
    rfl

/-- The second half of a double tap. -/
theorem Tracks.up_second (h : r.Tracks timing b target last live)
    (hp : pairs timing b last r.clock.now = true) :
    (r.step (.input (.up target))).Tracks timing b target none none ∧
      (r.step (.input (.up target))).clock.now = r.clock.now ∧
      (r.step (.input (.up target))).log =
        r.log ++ [(r.clock.now, ⟨.doubleTap, target⟩)] := by
  have hrelease := Detector.release_up h.attached r.supply r.clock target
  rw [step_eq, act_up]
  generalize r.detector.up r.supply r.clock target = out at hrelease ⊢
  cases hrelease with
  | doubleTap =>
    have hw := h.release none r.clock rfl ((h.ready.cancel .hold).cancel (.tap target)) nofun
      h.deadlines.cancelHold.cancelTap false (r.log ++ [(r.clock.now, ⟨.doubleTap, target⟩)])
    obtain ⟨ht, hclock, hlog⟩ := hw.tracks rfl (by rw [awaited_none])
    exact ⟨ht, hclock, hlog.trans (List.append_nil _)⟩
  | _ hdouble => simp [h.completesDoubleTap_released, hp] at hdouble

/-- The release of a hold. -/
theorem Tracks.up_hold (h : r.Tracks timing b target last live)
    (hp : pairs timing b last r.clock.now = false)
    (hl : live.any (·.2 ≤ r.clock.now) = true) :
    (r.step (.input (.up target))).Tracks timing b target none none ∧
      (r.step (.input (.up target))).clock.now = r.clock.now ∧
      (r.step (.input (.up target))).log = r.log ++ [(r.clock.now, ⟨.hold, target⟩)] := by
  have hb : b.hold = true := by
    cases hlive : live with
    | none => simp [hlive] at hl
    | some l => exact h.bound_hold l hlive
  have hlong : ¬ r.detector.IsShort r.supply := by
    intro hshort
    have hunbound := (hshort (h.isHold_eq.trans hl)).2
    rw [h.bound_eq, hb] at hunbound
    cases hunbound
  have hrelease := Detector.release_up h.attached r.supply r.clock target
  rw [step_eq, act_up]
  generalize r.detector.up r.supply r.clock target = out at hrelease ⊢
  cases hrelease with
  | doubleTap hdouble => simp [h.completesDoubleTap_released, hp] at hdouble
  | afterHold _ _ hmode => cases h.mode_eq.symm.trans hmode
  | hold =>
    have hw := h.release none r.clock rfl (h.ready.cancel .hold) nofun
      h.deadlines.cancelHold false (r.log ++ [(r.clock.now, ⟨.hold, target⟩)])
    rw [awaited_filter_eq_none h.last_le hp] at hw
    obtain ⟨ht, hclock, hlog⟩ := hw.tracks rfl (by rw [awaited_none])
    exact ⟨ht, hclock, hlog.trans (List.append_nil _)⟩
  | unbound _ hshort | deferred _ hshort | tap _ hshort => exact absurd hshort hlong

/-- The reports of a tap at a time, those that are deferred included. -/
def tapReports (timing : GestureTiming) (b : Bindings) (target : Target) (now : Nat) :
    List (Nat × Recognition) :=
  if !b.tap then []
  else if !b.doubleTap then [(now, ⟨.tap, target⟩)]
  else [(now + timing.window, ⟨.tap, target⟩)]

theorem deferred_eq_tapReports (hb : b.doubleTap = true) (hw : 0 < timing.window) (now : Nat) :
    deferred timing b target (some now) now = tapReports timing b target now := by
  cases ht : b.tap <;> simp [deferred, awaited, tapReports, tapReport, ht, hb, Option.filter_some,
    hw]

/-- A release that is neither half of a double tap nor the end of a hold is a tap. -/
theorem Tracks.up_short (h : r.Tracks timing b target last live)
    (hp : pairs timing b last r.clock.now = false)
    (hl : live.any (·.2 ≤ r.clock.now) = false) :
    (r.step (.input (.up target))).Tracks timing b target (some r.clock.now) none ∧
      (r.step (.input (.up target))).clock.now = r.clock.now ∧
      (r.step (.input (.up target))).log ++
          deferred timing b target (some r.clock.now) r.clock.now =
        r.log ++ tapReports timing b target r.clock.now := by
  have hlast : ∀ time ∈ some r.clock.now, time ≤ r.clock.now := by
    rintro time ⟨⟩
    exact Nat.le_refl _
  have hready := h.ready.cancel .hold
  have hdeadlines := h.deadlines.cancelHold
  rw [awaited_filter_eq_none h.last_le hp] at hdeadlines
  have hshort : r.detector.isHold ≠ true := by simp [h.isHold_eq, hl]
  have hrelease := Detector.release_up h.attached r.supply r.clock target
  rw [step_eq, act_up]
  generalize r.detector.up r.supply r.clock target = out at hrelease ⊢
  unfold deferred tapReports
  cases hrelease with
  | doubleTap hdouble => simp [h.completesDoubleTap_released, hp] at hdouble
  | afterHold _ hhold | hold _ hhold => exact absurd hhold hshort
  | unbound _ _ htap =>
    rw [h.bound_eq] at htap
    rw [reported_none]
    obtain ⟨ht, hclock, hlog⟩ := (h.release (some r.clock.now) r.clock rfl hready hlast
      hdeadlines false r.log).tracks rfl (by simp [awaited, htap])
    refine ⟨ht, hclock, (congrArg (· ++ _) hlog).trans ?_⟩
    simp [htap, awaited, tapReport]
  | deferred _ _ htap hsecond =>
    -- With a window of no length the tap is due at once.
    rw [h.bound_eq] at htap hsecond
    have hawaited : awaited timing b (some r.clock.now) = some (r.clock.now + timing.window) := by
      simp [awaited, htap, hsecond]
    rw [reported_none]
    obtain ⟨ht, hclock, hlog⟩ := (h.release (some r.clock.now) r.clock.tick rfl
      (hready.start (.tap target) r.detector.timing.window ()) hlast
      (hdeadlines.startTap hready.toFresh _) false r.log).tracks rfl (by rw [h.timing_eq, hawaited])
    refine ⟨ht, hclock, (congrArg (· ++ _) hlog).trans ?_⟩
    rw [hawaited, List.append_assoc, ← h.timing_eq]
    simp only [htap, hsecond, Bool.not_true, Bool.false_eq_true, if_false]
    exact congrArg (r.log ++ ·) (tapReport_some _ r.clock.now)
  | tap _ _ htap hsecond =>
    rw [h.bound_eq] at htap hsecond
    obtain ⟨ht, hclock, hlog⟩ := (h.release (some r.clock.now) r.clock rfl hready hlast
      hdeadlines false (r.log ++ [(r.clock.now, ⟨.tap, target⟩)])).tracks rfl
      (by simp [awaited, hsecond])
    refine ⟨ht, hclock, (congrArg (· ++ _) hlog).trans ?_⟩
    simp [htap, hsecond, awaited, tapReport]

/-! ## Presses -/

/-- The hope for a hold, after some interludes that begin now. -/
def liveAfterAll (timing : GestureTiming) (now : Nat) (live : Option (Point × Nat)) :
    List Interlude → Option (Point × Nat)
  | [] => live
  | i :: rest => liveAfterAll timing (now + i.delay) (liveAfter timing now live i) rest

theorem liveAfterAll_none (now : Nat) (l : List Interlude) :
    liveAfterAll timing now none l = none := by
  induction l generalizing now with
  | nil => rfl
  | cons i rest ih => cases i <;> exact ih _

/-- A press is hoped to be a hold as long as the pointer neither leaves nor moves too far too early.
-/
theorem liveAfterAll_some (now : Nat) (p : Point) (limit : Nat) (l : List Interlude) :
    liveAfterAll timing now (some (p, limit)) l =
      if !l.any Interlude.abandons && TimedPress.isSteady timing p limit (Interlude.moves now l)
      then some (p, limit) else none := by
  induction l generalizing now with
  | nil => rfl
  | cons i rest ih =>
    cases i with
    | move q =>
      simp only [liveAfterAll, liveAfter, Option.filter_some, Interlude.delay, Nat.add_zero,
        Interlude.moves, TimedPress.isSteady, List.all_cons, List.any_cons, Interlude.abandons,
        Bool.false_or]
      by_cases hq : (!timing.exceeds p q || decide (limit ≤ now)) = true
      · rw [if_pos hq, ih, hq, Bool.true_and]
        rfl
      · rw [if_neg hq, liveAfterAll_none]
        simp [hq]
    | leave => exact (liveAfterAll_none _ rest).trans (by simp [Interlude.abandons])
    | cancel => exact (liveAfterAll_none _ rest).trans (by simp [Interlude.abandons])
    | sleep delay =>
      simp only [liveAfterAll, liveAfter, ih, List.any_cons, Interlude.abandons, Bool.false_or,
        Interlude.moves]

/-- Interludes report nothing but the deferred tap, when it is due. -/
theorem Tracks.interludes (h : r.Tracks timing b target last live) (l : List Interlude) :
    (r.run (l.map Interlude.step)).Tracks timing b target last
        (liveAfterAll timing r.clock.now live l) ∧
      (r.run (l.map Interlude.step)).clock.now = r.clock.now + Interlude.elapsed l ∧
      (r.run (l.map Interlude.step)).log ++
          deferred timing b target last (r.run (l.map Interlude.step)).clock.now =
        r.log ++ deferred timing b target last r.clock.now := by
  induction l generalizing r live with
  | nil => exact ⟨h, rfl, rfl⟩
  | cons i rest ih =>
    obtain ⟨ht, hclock, hlog⟩ := h.interlude i
    obtain ⟨ht', hclock', hlog'⟩ := ih ht
    rw [hclock] at ht' hclock'
    refine ⟨ht', ?_, hlog'.trans hlog⟩
    rw [List.map_cons, run, List.foldl_cons, ← run, hclock', Nat.add_assoc]
    rfl

/-- A press up to its release: the detector hopes for a hold if the press is one. -/
theorem Tracks.press (h : r.Tracks timing b target last none) (p : Press) :
    ∃ (live : Option (Point × Nat)) (r' : DetectorRun),
      r.run (p.steps target) = r'.step (.input (.up target)) ∧
      r'.Tracks timing b target last live ∧
      r'.clock.now = (p.timed r.clock.now).up ∧
      live.any (·.2 ≤ r'.clock.now) = (b.hold && (p.timed r.clock.now).isHold timing) ∧
      r'.log ++ deferred timing b target last r'.clock.now =
        r.log ++ deferred timing b target last r.clock.now := by
  obtain ⟨ht₁, hclock₁, hlog₁⟩ := h.interludes p.before
  rw [liveAfterAll_none] at ht₁
  obtain ⟨ht₂, hclock₂, hlog₂⟩ := ht₁.down p.start
  obtain ⟨ht₃, hclock₃, hlog₃⟩ := ht₂.interludes p.during
  rw [hclock₂, hclock₁] at hclock₃
  refine ⟨_, _, ?_, ht₃, hclock₃, ?_, ?_⟩
  · rw [Press.steps, run_append, ← List.singleton_append, run_append, run_append]
    rfl
  · rw [hclock₃, hclock₂, hclock₁]
    by_cases hb : b.hold = true
    · rw [if_pos hb, liveAfterAll_some, hb, Bool.true_and]
      simp only [TimedPress.isHold, Press.timed]
      generalize p.during.any Interlude.abandons = abandoned
      generalize TimedPress.isSteady timing p.start _ _ = steady
      cases abandoned <;> cases steady <;> simp
    · rw [if_neg hb, liveAfterAll_none]
      simp [hb]
  · rw [hlog₃, hlog₂, hclock₂, hlog₁]

/-- The reports of a tap, unless the next press makes it half of a double tap. -/
def tapUnless (timing : GestureTiming) (b : Bindings) (target : Target) (last : Option Nat)
    (now : Nat) (ps : List TimedPress) : List (Nat × Recognition) :=
  if ps.head?.any (TimedPress.isSecond timing b last) then []
  else deferred timing b target last now

/-- A tap stands in the log already or is deferred, unless the next press takes it. -/
theorem append_tapUnless {log log' : List (Nat × Recognition)} {now : Nat}
    (h : log' ++ deferred timing b target (some now) now = log ++ tapReports timing b target now)
    (ps : List TimedPress) :
    log' ++ tapUnless timing b target (some now) now ps =
      log ++ if !b.tap then []
        else if !b.doubleTap then [(now, ⟨.tap, target⟩)]
        else if ps.head?.any (TimedPress.isSecond timing b (some now)) then []
        else [(now + timing.window, ⟨.tap, target⟩)] := by
  unfold tapUnless
  cases hnext : ps.head?.any (TimedPress.isSecond timing b (some now)) with
  | true =>
    obtain ⟨p, -, hp⟩ := Option.any_eq_true _ _ |>.1 hnext
    simp only [TimedPress.isSecond, Option.any_some, Bool.and_eq_true, decide_eq_true_eq] at hp
    rw [deferred_eq_tapReports hp.1 (by omega)] at h
    simp [List.append_cancel_right h, hp.1]
  | false =>
    simp only [Bool.false_eq_true, if_false]
    rw [h, tapReports]

/-- What presses report, and what is deferred after them, is what was deferred before them, unless
the first press makes it half of a double tap, and what the presses amount to. -/
theorem Tracks.presses (h : r.Tracks timing b target last none) (ps : List Press) :
    ∃ last', (r.run (ps.flatMap (Press.steps target))).Tracks timing b target last' none ∧
      (r.run (ps.flatMap (Press.steps target))).log ++ deferred timing b target last'
          (r.run (ps.flatMap (Press.steps target))).clock.now =
        r.log ++ tapUnless timing b target last r.clock.now (Press.timeline r.clock.now ps) ++
          TimedPress.classify timing b target last (Press.timeline r.clock.now ps) := by
  induction ps generalizing r last with
  | nil => exact ⟨last, h, by simp [Press.timeline, tapUnless, TimedPress.classify, run]⟩
  | cons p ps ih =>
    obtain ⟨live, r', hrun, ht, hclock, hlive, hlog⟩ := h.press p
    have hnow : r.clock.now ≤ r'.clock.now := by
      rw [hclock]
      exact (Nat.le_add_right _ _).trans (Nat.le_add_right _ _)
    have hpairs : (p.timed r.clock.now).isSecond timing b last =
        pairs timing b last r'.clock.now := by rw [hclock]; rfl
    rw [List.flatMap_cons, run_append, hrun, Press.timeline, TimedPress.classify, hpairs, ← hlive,
      ← hclock, tapUnless, List.head?_cons, Option.any_some, hpairs]
    cases hp : pairs timing b last r'.clock.now with
    | true =>
      obtain ⟨ht', hclock', hlog'⟩ := ht.up_second hp
      obtain ⟨last', hfinal, hreports⟩ := ih ht'
      rw [deferred_eq_of_pairs h.last_le hnow hp] at hlog
      have hsame : r'.log = r.log := List.append_cancel_right hlog
      refine ⟨last', hfinal, hreports.trans ?_⟩
      rw [hlog', hclock', hsame, tapUnless, deferred_none]
      simp
    | false =>
      rw [deferred, awaited_filter_eq_none ht.last_le hp] at hlog
      have hsame : r'.log = r.log ++ deferred timing b target last r.clock.now := by
        rw [← hlog]
        exact (List.append_nil _).symm
      cases hl : live.any (·.2 ≤ r'.clock.now) with
      | true =>
        obtain ⟨ht', hclock', hlog'⟩ := ht.up_hold hp hl
        obtain ⟨last', hfinal, hreports⟩ := ih ht'
        refine ⟨last', hfinal, hreports.trans ?_⟩
        rw [hlog', hclock', hsame, tapUnless, deferred_none]
        simp
      | false =>
        obtain ⟨ht', hclock', hlog'⟩ := ht.up_short hp hl
        obtain ⟨last', hfinal, hreports⟩ := ih ht'
        refine ⟨last', hfinal, hreports.trans ?_⟩
        rw [hclock', append_tapUnless hlog', hsame]
        simp

/-! ## Whole streams -/

/-- A detector that reports holds at the release and has seen nothing yet. -/
def idle (timing : GestureTiming) (bindings : Bindings) (supply : Option Bindings)
    (clock : Clock) : DetectorRun :=
  { clock, detector := { timing, bindings, mode := .onRelease }, supply }

theorem tracks_idle (timing : GestureTiming) (bindings : Bindings) (supply : Option Bindings)
    (clock : Clock) (target : Target) :
    (idle timing bindings supply clock).Tracks timing (supply.getD bindings) target none none where
  timing_eq := rfl
  mode_eq := rfl
  attached := rfl
  bound_eq := rfl
  ready := .empty clock
  lastTap_eq := rfl
  last_le := nofun
  deadlines := ⟨by rw [awaited_none]; rfl, rfl, fun _ _ => rfl⟩
  isHold_eq := rfl
  start_eq := nofun
  bound_hold := nofun

/-- A run that waits for nothing has no tap deferred. -/
theorem Tracks.deferred_eq_nil (h : r.Tracks timing b target last live)
    (hnil : r.detector.timers.pending = []) : deferred timing b target last r.clock.now = [] := by
  have htap := h.deadlines.tap_eq
  rw [Timers.pending_eq_nil_iff.1 hnil] at htap
  rw [deferred, ← htap]
  rfl

/-- A tap is deferred for one window at most. -/
theorem awaited_filter_of_window_le {now wait : Nat} (hlast : ∀ time ∈ last, time ≤ now)
    (hwait : timing.window ≤ wait) :
    (awaited timing b last).filter (now + wait < ·) = none := by
  cases last with
  | none => rw [awaited_none]; rfl
  | some time =>
    have htime : time ≤ now := hlast time rfl
    have hdue : ¬ now + wait < time + timing.window := by omega
    unfold awaited
    split <;> simp [Option.filter_some, hdue]

/-- A run without a press under way waits for nothing once a window has passed. -/
theorem Tracks.pending_sleep (h : r.Tracks timing b target last none) {wait : Nat}
    (hwait : timing.window ≤ wait) : (r.step (.sleep wait)).detector.timers.pending = [] := by
  obtain ⟨ht, hclock, -⟩ := h.interlude (.sleep wait)
  have hd := ht.deadlines
  rw [hclock, Interlude.delay, awaited_filter_of_window_le h.last_le hwait] at hd
  exact hd.pending_eq_nil

/-- What a stream of presses on one element reports, with the tap that is deferred when it ends, is
what the presses amount to. -/
theorem exists_tracks_stream (timing : GestureTiming) (bindings : Bindings)
    (supply : Option Bindings) (clock : Clock) (target : Target) (ps : List Press)
    (rest : List Interlude) :
    ∃ last, ((idle timing bindings supply clock).run (Press.stream target ps rest)).Tracks timing
        (supply.getD bindings) target last none ∧
      ((idle timing bindings supply clock).run (Press.stream target ps rest)).log ++
          deferred timing (supply.getD bindings) target last
            ((idle timing bindings supply clock).run (Press.stream target ps rest)).clock.now =
        TimedPress.classify timing (supply.getD bindings) target none
          (Press.timeline clock.now ps) := by
  obtain ⟨last, ht, hlog⟩ := (tracks_idle timing bindings supply clock target).presses ps
  obtain ⟨htr, -, hlogr⟩ := ht.interludes rest
  rw [liveAfterAll_none] at htr
  have hnone : tapUnless timing (supply.getD bindings) target none clock.now
      (Press.timeline clock.now ps) = [] := by
    rw [tapUnless, deferred_none]
    split <;> rfl
  rw [Press.stream, run_append]
  refine ⟨last, htr, hlogr.trans (hlog.trans ?_)⟩
  rw [show (idle timing bindings supply clock).clock.now = clock.now from rfl, hnone]
  rfl

/-- Once nothing is pending, a detector that reports holds at the release has reported what the
batch classifier reads off the presses; that is so as soon as a window has passed. -/
theorem log_stream_eq_classify (timing : GestureTiming) (bindings : Bindings)
    (supply : Option Bindings) (clock : Clock) (target : Target) (ps : List Press)
    (rest : List Interlude) :
    let r := (idle timing bindings supply clock).run (Press.stream target ps rest)
    let reports := TimedPress.classify timing (supply.getD bindings) target none
      (Press.timeline clock.now ps)
    (r.detector.timers.pending = [] → r.log = reports) ∧
      ∀ wait, timing.window ≤ wait →
        (r.step (.sleep wait)).detector.timers.pending = [] ∧
          (r.step (.sleep wait)).log = reports := by
  intro r reports
  obtain ⟨last, ht, hlog⟩ := exists_tracks_stream timing bindings supply clock target ps rest
  have hlog' : r.log ++ deferred timing (supply.getD bindings) target last r.clock.now = reports :=
    hlog
  refine ⟨fun hnil => ?_, fun wait hwait => ?_⟩
  · rw [← hlog', ht.deferred_eq_nil hnil, List.append_nil]
  · have hnil := ht.pending_sleep hwait
    obtain ⟨hts, -, hlogs⟩ := ht.interlude (.sleep wait)
    have hempty := hts.deferred_eq_nil hnil
    rw [Interlude.step] at hlogs hempty
    refine ⟨hnil, ?_⟩
    rw [← hlog', ← hlogs, hempty, List.append_nil]

/-- Two taps in quick succession, a hold, and a tap after it, with a pause that a deferred tap
survives and one that it does not. -/
theorem log_stream_eq_classify_taps_and_hold :
    let timing : GestureTiming := { hold := 5, window := 3 }
    let ps : List Press :=
      [⟨[], ⟨0, 0⟩, [.sleep 1]⟩, ⟨[.sleep 1], ⟨0, 0⟩, [.sleep 1]⟩, ⟨[.sleep 4], ⟨0, 0⟩, [.sleep 6]⟩,
        ⟨[.sleep 2], ⟨0, 0⟩, [.sleep 2]⟩]
    let run := fun wait =>
      (idle timing ⟨true, true, true⟩ none {}).run (Press.stream "light" ps [.sleep wait])
    let reports : List (Nat × Recognition) :=
      [(3, ⟨.doubleTap, "light"⟩), (13, ⟨.hold, "light"⟩), (20, ⟨.tap, "light"⟩)]
    (run 3).detector.timers.pending = [] ∧ (run 3).log = reports ∧
      ((run 2).step (.sleep 3)).log = reports := by
  intro timing ps run reports
  have hrun : ∀ wait, run wait =
      (idle timing ⟨true, true, true⟩ none {}).run (Press.stream "light" ps [.sleep wait]) :=
    fun _ => rfl
  have hreports : TimedPress.classify timing ⟨true, true, true⟩ "light" none
      (Press.timeline 0 ps) = reports := by decide
  have hnil : (run 3).detector.timers.pending = [] := by decide +kernel
  obtain ⟨hlate, -⟩ :=
    log_stream_eq_classify timing ⟨true, true, true⟩ none {} "light" ps [.sleep 3]
  obtain ⟨-, hsoon⟩ :=
    log_stream_eq_classify timing ⟨true, true, true⟩ none {} "light" ps [.sleep 2]
  rw [hrun] at hnil
  rw [hrun, hrun]
  exact ⟨hnil, (hlate hnil).trans hreports, (hsoon 3 (Nat.le_refl _)).2.trans hreports⟩

end DetectorRun

end NavigationBar
