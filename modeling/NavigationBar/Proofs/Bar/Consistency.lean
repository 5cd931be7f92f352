import NavigationBar.Proofs.Bar.Carrying
import NavigationBar.Proofs.Bar.ShownPopup

/-!
# What a bar keeps of its configuration

A bar keeps the route whose popup is open and when it vibrates apart from the configuration that
both belong to. They belong to the configuration of the moment whatever is done with the bar, also
when the host does not listen and plans stop halfway.
-/

namespace NavigationBar

/-! ## Effects -/

namespace Executor

theorem haptics_bringAll (x : Executor) (effects : List Effect) :
    (x.bringAll effects).1.haptics = x.haptics := by
  refine bringAll_induction (P := fun y => y.haptics = x.haptics) ?_ rfl
  intro y z e _ hbring hy
  exact (bring?_eq_some hbring).1.trans hy

/-- Some effects, or as many of them as the host takes, leave the popup open that was, or one that
they open themselves. -/
theorem openRoute_bringAll (x : Executor) (effects : List Effect) :
    (x.bringAll effects).1.openRoute = x.openRoute ∨
      .setOpen (x.bringAll effects).1.openRoute ∈ effects := by
  refine bringAll_induction
    (P := fun y => y.openRoute = x.openRoute ∨ .setOpen y.openRoute ∈ effects) ?_ (Or.inl rfl)
  intro y z e he hbring hy
  rcases (bring?_eq_some hbring).2.2 with hsame | rfl
  · rwa [hsame]
  · exact Or.inr he

/-- No popup counts as open once whichever was open is closed, even if the host is not told. -/
theorem openRoute_closeAnyPopup (x : Executor) : x.closeAnyPopup.1.openRoute = none := by
  unfold closeAnyPopup
  cases hopen : x.openRoute with
  | none => exact hopen
  | some route =>
    let closed : Executor := { x with openRoute := none }
    have hclosed : (closed.bringAll (Popup.dismiss route)).1.openRoute = none := by
      refine (openRoute_bringAll _ _).resolve_right ?_
      simp [Popup.dismiss]
    exact hclosed

end Executor

namespace Popup

variable {current r : Option Nat} {route : Nat}

theorem mem_close (h : .setOpen r ∈ close current route) : r = none := by
  unfold close at h
  split at h
  · cases current with
    | none => cases h
    | some other => simpa [closeAny, dismiss] using h
  · cases h

theorem mem_opening {target : Target} (h : .setOpen r ∈ opening current route target) :
    r = some route := by
  unfold opening at h
  split at h
  · split at h <;> simpa [dismiss] using h
  · simpa using h

end Popup

namespace Plan

/-- An action opens no popup but that of the route it belongs to. -/
theorem owner_of_setOpen {h : Option Haptics} {current : Option Nat} {c : Template.Context}
    {a : Option Action} {o : Occasion} {i : Nat}
    (hmem : .setOpen (some i) ∈ (of h current c a o).effects) :
    ∃ url entries, o.owner = .route i url entries := by
  have hopening : .setOpen (some i) ∉ opening current a o := by
    intro hmem
    rcases List.mem_cons.mp hmem with heq | hmem
    · cases heq
    · split at hmem
      · cases hmem
      · cases hroute : o.owner.popupRoute? with
        | none =>
          rw [hroute] at hmem
          cases hmem
        | some route =>
          rw [hroute] at hmem
          cases Popup.mem_close hmem
  have hbody := (List.mem_append.mp hmem).resolve_left hopening
  match a with
  | none => exact (apart_ofNothing h o _ hbody).elim
  | some (.host fields) => exact (apart_ofHost h o _ _ hbody).elim
  | some (.own own) =>
    by_cases hown : own = .openPopup
    · subst hown
      cases howner : o.owner with
      | route index url entries =>
        simp only [ofOwn, howner] at hbody
        split at hbody
        · cases hbody
        · have hopens := (List.mem_append.mp hbody).resolve_left (apart_vibration h _ _ _)
          obtain rfl := Option.some.inj (Popup.mem_opening hopens)
          exact ⟨url, entries, rfl⟩
      | entry route index url | widget =>
        simp only [ofOwn, howner] at hbody
        cases hbody
    · exact (apart_ofOwn h current c o hown _ hbody).elim

end Plan

/-! ## Bars -/

namespace Bar

/-- What a bar keeps belongs to its configuration. -/
structure Consistent (b : Bar) : Prop where
  openRoute_lt : ∀ i, b.openRoute = some i → i < b.config.routes.length
  haptics_eq : b.executor.haptics = b.config.haptics

variable {b : Bar}

theorem consistent_ofConfig (config : Config) : (ofConfig config).Consistent :=
  ⟨nofun, rfl⟩

/-- Neither the outbox nor the clock matters. -/
theorem Consistent.timed (h : b.Consistent) (outbox : Outbox) (clock : Clock) :
    { b with executor := { b.executor with outbox, clock } }.Consistent :=
  ⟨h.openRoute_lt, h.haptics_eq⟩

theorem Consistent.perform (h : b.Consistent) {p : Plan}
    (hp : ∀ i, .setOpen (some i) ∈ p.effects → i < b.config.routes.length) :
    (b.after (b.executor.perform p)).1.Consistent where
  openRoute_lt := by
    intro i hi
    change (b.executor.bringAll p.effects).1.openRoute = some i at hi
    rcases b.executor.openRoute_bringAll p.effects with hsame | hopened
    · exact h.openRoute_lt i (hsame.symm.trans hi)
    · exact hp i (hi ▸ hopened)
  haptics_eq := (b.executor.haptics_bringAll p.effects).trans h.haptics_eq

/-- Gestures are met on routes of the configuration only. -/
theorem lt_of_lookup {p : Place} {g : Gesture} {a : Option Action} {i : Nat} {url : Option String}
    {entries : Nat} (h : b.lookup p g = .ok (a, .route i url entries)) :
    i < b.config.routes.length := by
  cases p with
  | route j =>
    cases hroute : b.config.routes[j]? with
    | none => simp [lookup, hroute] at h
    | some r =>
      obtain ⟨-, rfl, -⟩ : _ ∧ j = i ∧ _ := by simpa [lookup, hroute] using h
      exact (List.getElem?_eq_some_iff.mp hroute).1
  | entry r j => cases hentry : (b.entries r)[j]? <;> simp [lookup, hentry] at h
  | player => cases hplayer : b.config.player <;> simp [lookup, hplayer] at h

theorem Consistent.dispatch (h : b.Consistent) (p : Place) (g : Gesture) (target : Target) :
    (b.dispatch p g target).1.Consistent := by
  unfold Bar.dispatch
  split
  · exact h
  · rename_i a owner hlookup
    refine h.perform fun i hi => ?_
    obtain ⟨url, entries, rfl⟩ : ∃ url entries, owner = .route i url entries :=
      Plan.owner_of_setOpen hi
    exact lt_of_lookup hlookup

/-- Another configuration leaves nothing of the one before, even if the host is not told that the
popup is closed. -/
theorem consistent_setConfig (b : Bar) (c : Config) : (b.setConfig c).1.Consistent where
  openRoute_lt := by
    intro i hi
    cases (Executor.openRoute_closeAnyPopup _).symm.trans hi
  haptics_eq := Executor.haptics_bringAll _ _

theorem Consistent.closePopup (h : b.Consistent) : b.closePopup.1.Consistent := by
  refine h.perform fun i hi => ?_
  cases hopen : b.executor.openRoute <;> simp [hopen, Popup.closeAny, Popup.dismiss] at hi

theorem Consistent.playPause (h : b.Consistent) : b.playPause.1.Consistent := by
  unfold Bar.playPause
  split
  · exact h.perform (by simp)
  · exact h

theorem Consistent.nextTrack (h : b.Consistent) : b.nextTrack.1.Consistent := by
  unfold Bar.nextTrack
  split
  · exact h.perform (by simp)
  · exact h

end Bar

/-! ## Runs -/

namespace BarRun

variable {r : BarRun}

theorem consistent_reported (h : r.bar.Consistent) (a : Attached) (report : Option Recognition) :
    (r.reported a report).bar.Consistent := by
  cases report with
  | none => exact h
  | some g => exact h.dispatch a.place g.gesture g.target

theorem consistent_input (h : r.bar.Consistent) (id : String) (i : Detector.Input) :
    (r.input id i).bar.Consistent := by
  unfold input
  split
  · exact h
  · rename_i a _
    generalize a.detector.handle (some (r.bar.bindings a.place)) r.clock i = handled
    obtain ⟨d, clock, report⟩ := handled
    exact consistent_reported (r := { r.put a d with bar.executor.clock := clock })
      (h.timed r.bar.executor.outbox clock) a report

theorem consistent_wake (h : r.bar.Consistent) (e : Scheduled (String × Slot)) :
    (r.wake e).bar.Consistent := by
  let delivered : BarRun := { r with bar.executor := r.bar.executor.deliverBefore e }
  have hdelivered : delivered.bar.Consistent := h.timed _ _
  unfold wake
  dsimp only
  split
  · exact hdelivered
  · rename_i a _
    exact consistent_reported (r := delivered.put a _) hdelivered a _

theorem consistent_settle (h : r.bar.Consistent) (time : Nat) :
    (r.settle time).bar.Consistent := by
  have hwakes : ∀ wakes : List (Scheduled (String × Slot)),
      (wakes.foldl wake r).bar.Consistent := by
    intro wakes
    induction wakes generalizing r with
    | nil => exact h
    | cons e wakes ih => exact ih (consistent_wake h e)
  exact (hwakes _).timed _ _

theorem consistent_act (h : r.bar.Consistent) (s : BarStep) : (r.act s).1.bar.Consistent := by
  cases s with
  | setConfig c => exact r.bar.consistent_setConfig c
  | setSnapshot s => exact ⟨h.openRoute_lt, h.haptics_eq⟩
  | setWidth width => exact ⟨h.openRoute_lt, h.haptics_eq⟩
  | setEdited isEdited => exact ⟨h.openRoute_lt, h.haptics_eq⟩
  | dispatch p g target => exact h.dispatch p g target
  | closePopup => exact h.closePopup
  | playPause => exact h.playPause
  | nextTrack => exact h.nextTrack
  | attach id p => exact h
  | drop id => exact h
  | input id i => exact consistent_input h id i
  | hostGone => exact h.timed _ _
  | sleep delay => exact consistent_settle h _

/-- What becomes of a new bar: something is done with it, one of its timers fires, or what is due
by a time happens. -/
inductive Reachable : BarRun → Prop
  | started (config : Config) : Reachable (started config)
  | act {r : BarRun} (h : Reachable r) (s : BarStep) : Reachable (r.act s).1
  | wake {r : BarRun} (h : Reachable r) (e : Scheduled (String × Slot)) : Reachable (r.wake e)
  | settle {r : BarRun} (h : Reachable r) (time : Nat) : Reachable (r.settle time)

theorem Reachable.consistent (h : r.Reachable) : r.bar.Consistent := by
  induction h with
  | started config => exact Bar.consistent_ofConfig config
  | act _ s ih => exact consistent_act ih s
  | wake _ e ih => exact consistent_wake ih e
  | settle _ time ih => exact consistent_settle ih time

theorem Reachable.run (h : r.Reachable) (steps : List BarStep) : (r.run steps).Reachable := by
  induction steps generalizing r with
  | nil => exact h
  | cons s steps ih => exact ih ((h.act s).settle _)

/-- Whatever is done with a bar, the popup that counts as open belongs to a route of the
configuration of the moment, and the bar vibrates as that configuration says. -/
theorem openRoute_lt_and_haptics_eq (h : r.Reachable) :
    (∀ i, r.bar.openRoute = some i → i < r.bar.config.routes.length) ∧
      r.bar.executor.haptics = r.bar.config.haptics :=
  ⟨h.consistent.openRoute_lt, h.consistent.haptics_eq⟩

/-- The popup of the second route is open when the host stops listening. Then the bar gets a
configuration with one route. -/
theorem openRoute_lt_and_haptics_eq_after_loss :
    let tapped := (started { routes := [popupRoute "/x", popupRoute "/y"] }).run
      [.dispatch (.route 1) .tap "b", .hostGone]
    let replaced := tapped.run
      [.setConfig { routes := [popupRoute "/x"], haptics := some (.uniform true) }]
    (tapped.bar.openRoute = some 1 ∧ 1 < tapped.bar.config.routes.length) ∧
      replaced.bar.openRoute = none ∧ replaced.bar.executor.haptics = some (.uniform true) := by
  have hreachable := (Reachable.started { routes := [popupRoute "/x", popupRoute "/y"] }).run
    [.dispatch (.route 1) .tap "b", .hostGone]
  exact ⟨⟨rfl, (openRoute_lt_and_haptics_eq hreachable).1 1 rfl⟩, rfl,
    (openRoute_lt_and_haptics_eq (hreachable.run _)).2⟩

end BarRun

end NavigationBar
