import NavigationBar.Proofs.Bar.Carrying
import NavigationBar.Proofs.Bar.ShownPopup

/-!
# Places on a bar

What a bar draws, what is bound on it and what its gestures find are worked out apart from each
other, each time from the configuration and the state of the host. They are about the same places.
-/

namespace NavigationBar

/-! ## How actions end -/

theorem Plan.outcome_ne_nothingAt (h : Option Haptics) (current : Option Nat)
    (c : Template.Context) (a : Option Action) (o : Occasion) (q : Place) :
    (of h current c a o).outcome ≠ .error (.nothingAt q) := by
  intro hends
  cases a with
  | none => cases hends
  | some action =>
    cases action with
    | host fields => cases hends
    | own own =>
      cases own with
      | openPopup =>
        simp only [of, ofOwn] at hends
        split at hends
        · split at hends <;> cases hends
        · cases hends
      | runScript code =>
        simp only [of, ofOwn] at hends
        split at hends <;> cases hends
      | navigateBack | toggleMenu | showNotifications | quickbar mode | openEditMode | logout =>
        cases hends

namespace Executor

variable (x : Executor) (c : Template.Context) (a : Option Action) (o : Occasion)

theorem perform_outcome (p : Plan) :
    (x.perform p).2 = if (x.bringAll p.effects).2 then p.outcome else .error .hostGone :=
  rfl

/-- An action belongs to a place that was found. -/
theorem execute_ne_nothingAt (q : Place) : (x.execute c a o).2 ≠ .error (.nothingAt q) := by
  rw [execute, perform_outcome]
  split
  · exact Plan.outcome_ne_nothingAt _ _ _ _ _ q
  · exact nofun

/-- While the host listens, an action ends as it was planned. -/
theorem execute_outcome (h : x.outbox.isOpen = true) :
    (x.execute c a o).2 = (Plan.of x.haptics x.openRoute c a o).outcome := by
  rw [execute, perform_outcome, if_pos (brought_bringAll h _).2]

end Executor

namespace Bar

/-! ## Places that are drawn -/

/-- Whether something is drawn at a place; the media player, where one is configured. -/
def Draws (b : Bar) : Place → Prop
  | .route i => i < b.drawnRoutes.length
  | .entry r i => ∃ d, b.drawnRoutes[r]? = some d ∧ i < d.entries.length
  | .player => b.config.player.isSome = true

variable {b : Bar}

theorem length_drawnRoutes : b.drawnRoutes.length = b.config.routes.length :=
  List.length_map _

/-- A route is drawn with as many entries as its popup has. -/
theorem exists_drawn {r : Nat} {route : Route} (h : b.config.routes[r]? = some route) :
    ∃ d, b.drawnRoutes[r]? = some d ∧ d.entries.length = (route.entries b.context).length := by
  let labels := b.config.labels b.layout
  refine ⟨route.draw b.context b.snapshot.path labels.onRoutes labels.onEntries, ?_, ?_⟩
  · rw [drawnRoutes, List.getElem?_map, h]
    rfl
  · exact List.length_map _

theorem draws_entry {r i : Nat} : b.Draws (.entry r i) ↔ i < (b.entries r).length := by
  cases hroute : b.config.routes[r]? with
  | none =>
    have hnone : b.drawnRoutes[r]? = none := by
      rwa [List.getElem?_eq_none_iff, length_drawnRoutes, ← List.getElem?_eq_none_iff]
    simp [Draws, hnone, entries, hroute]
  | some route =>
    obtain ⟨d, hd, hlength⟩ := exists_drawn hroute
    simp [Draws, hd, hlength, entries, hroute]

/-- What is bound at a place and what a gesture finds there, in one: both are as if nothing were
there, or both are about the actions of one owner. -/
theorem bindings_and_lookup (b : Bar) (p : Place) :
    (¬ b.Draws p ∧ b.bindings p = ⟨false, false, false⟩ ∧
      ∀ g, b.lookup p g = .error (.nothingAt p)) ∨
    (b.Draws p ∧ ∃ (action : Gesture → Option Action) (owner : Owner),
      b.bindings p = ⟨true, (action .hold).isSome, (action .doubleTap).isSome⟩ ∧
      ∀ g, b.lookup p g = .ok (action g, owner)) := by
  cases p with
  | route i =>
    cases hroute : b.config.routes[i]? with
    | none =>
      have hout : ¬ b.Draws (.route i) := by
        simpa [Draws, length_drawnRoutes] using List.getElem?_eq_none_iff.mp hroute
      exact .inl ⟨hout, by simp [bindings, bindings.ofItem, hroute],
        fun g => by simp [lookup, hroute]⟩
    | some r =>
      have hin : b.Draws (.route i) := by
        simpa [Draws, length_drawnRoutes] using (List.getElem?_eq_some_iff.mp hroute).1
      refine .inr ⟨hin, r.item.actionFor, .route i r.item.url (r.entries b.context).length, ?_, ?_⟩
      · simp [bindings, bindings.ofItem, hroute, Item.actionFor]
      · intro g
        simp [lookup, hroute]
  | entry r i =>
    rw [draws_entry]
    cases hentry : (b.entries r)[i]? with
    | none =>
      have hout := Nat.not_lt.mpr (List.getElem?_eq_none_iff.mp hentry)
      exact .inl ⟨hout, by simp [bindings, bindings.ofItem, hentry],
        fun g => by simp [lookup, hentry]⟩
    | some e =>
      refine .inr ⟨(List.getElem?_eq_some_iff.mp hentry).1, e.actionFor, .entry r i e.url, ?_, ?_⟩
      · simp [bindings, bindings.ofItem, hentry, Item.actionFor]
      · intro g
        simp [lookup, hentry]
  | player =>
    cases hplayer : b.config.player with
    | none =>
      exact .inl ⟨by simp [Draws, hplayer], by simp [bindings, hplayer],
        fun g => by simp [lookup, hplayer]⟩
    | some player =>
      refine .inr ⟨by simp [Draws, hplayer], player.actionOn b.context, .widget, ?_, ?_⟩
      · simp [bindings, hplayer, Player.actionOn, Player.actionFor]
      · intro g
        simp [lookup, hplayer]

theorem dispatch_nothingAt {p q : Place} {g : Gesture} {target : Target} :
    (b.dispatch p g target).2 = .error (.nothingAt q) ↔ q = p ∧ ¬ b.Draws p := by
  unfold dispatch
  rcases b.bindings_and_lookup p with ⟨hout, -, hlookup⟩ | ⟨hin, action, owner, -, hlookup⟩
  · rw [hlookup g]
    simp [hout, eq_comm]
  · rw [hlookup g]
    simp only [hin, not_true_eq_false, and_false, iff_false]
    exact Executor.execute_ne_nothingAt _ _ _ _ q

/-- Opening a popup fails for lack of entries exactly if its route is drawn with none. -/
theorem dispatch_noEntries {r s : Nat} {g : Gesture} {target : Target} {owner : Owner}
    (hopen : b.executor.outbox.isOpen = true)
    (h : b.lookup (.route r) g = .ok (some (.own .openPopup), owner)) :
    (b.dispatch (.route r) g target).2 = .error (.noEntries s) ↔
      s = r ∧ ∃ d, b.drawnRoutes[r]? = some d ∧ d.entries = [] := by
  cases hroute : b.config.routes[r]? with
  | none => simp [lookup, hroute] at h
  | some route =>
    obtain ⟨d, hd, hlength⟩ := exists_drawn hroute
    obtain rfl : .route r route.item.url (route.entries b.context).length = owner := by
      simp only [lookup, hroute, Except.ok.injEq, Prod.mk.injEq] at h
      exact h.2
    have hends : (b.dispatch (.route r) g target).2 =
        if d.entries.length = 0 then .error (.noEntries r) else .ok () := by
      rw [dispatch, h, hlength]
      refine (Executor.execute_outcome _ _ _ _ hopen).trans ?_
      simp only [Plan.of, Plan.ofOwn]
      split <;> rfl
    rw [hends, hd]
    simp only [List.length_eq_zero_iff, Option.some.injEq, exists_eq_left']
    split
    · rename_i hnone
      simp [hnone, eq_comm]
    · rename_i hsome
      simp [hsome]

/-- What is drawn, what is bound and what gestures find are the same places. A tap is bound wherever
there is something; another gesture, where there is an action for it. An action that opens a popup
fails for lack of entries exactly if none are drawn. -/
theorem nothingAt_iff_not_draws (b : Bar) :
    (∀ p,
      (∀ g target q, (b.dispatch p g target).2 = .error (.nothingAt q) ↔ q = p ∧ ¬ b.Draws p) ∧
      (b.bindings p = ⟨false, false, false⟩ ↔ ¬ b.Draws p) ∧
      (b.Draws p → (b.bindings p).tap = true ∧
        ((b.bindings p).hold = true ↔ ∃ a owner, b.lookup p .hold = .ok (some a, owner)) ∧
        ((b.bindings p).doubleTap = true ↔
          ∃ a owner, b.lookup p .doubleTap = .ok (some a, owner)))) ∧
    ∀ r g target owner, b.executor.outbox.isOpen = true →
      b.lookup (.route r) g = .ok (some (.own .openPopup), owner) →
      ∀ s, (b.dispatch (.route r) g target).2 = .error (.noEntries s) ↔
        s = r ∧ ∃ d, b.drawnRoutes[r]? = some d ∧ d.entries = [] := by
  refine ⟨fun p => ⟨fun g target q => dispatch_nothingAt, ?_⟩,
    fun r g target owner hopen h s => dispatch_noEntries hopen h⟩
  rcases b.bindings_and_lookup p with ⟨hout, hbound, -⟩ | ⟨hin, action, owner, hbound, hlookup⟩
  · exact ⟨iff_of_true hbound hout, fun hin => absurd hin hout⟩
  · rw [hbound]
    refine ⟨iff_of_false (by simp) (fun hout => hout hin), fun _ => ⟨rfl, ?_, ?_⟩⟩
    · simp [hlookup, Option.isSome_iff_exists]
    · simp [hlookup, Option.isSome_iff_exists]

/-- Two routes whose popups a tap opens; only the popup of the first has an entry. -/
def twoPopups : Bar :=
  .ofConfig { routes := [BarRun.popupRoute "/x", { item.tapAction := some (.own .openPopup) }] }

theorem nothingAt_iff_not_draws_of_two :
    (twoPopups.Draws (.entry 0 0) ∧ (twoPopups.bindings (.entry 0 0)).tap = true) ∧
      (¬ twoPopups.Draws (.entry 1 0) ∧
        (twoPopups.dispatch (.entry 1 0) .tap "a").2 = .error (.nothingAt (.entry 1 0))) ∧
      (twoPopups.dispatch (.route 1) .tap "a").2 = .error (.noEntries 1) := by
  obtain ⟨hplaces, hpopups⟩ := nothingAt_iff_not_draws twoPopups
  have hin : twoPopups.Draws (.entry 0 0) := draws_entry.mpr Nat.one_pos
  have hout : ¬ twoPopups.Draws (.entry 1 0) := fun h => nomatch draws_entry.mp h
  refine ⟨⟨hin, ((hplaces _).2.2 hin).1⟩, ⟨hout, ((hplaces _).1 _ _ _).mpr ⟨rfl, hout⟩⟩, ?_⟩
  exact (hpopups 1 .tap "a" _ rfl rfl 1).mpr ⟨rfl, _, rfl, rfl⟩

end Bar

end NavigationBar
