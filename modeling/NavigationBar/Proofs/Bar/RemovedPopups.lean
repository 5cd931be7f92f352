import Mathlib.Data.List.TakeWhile
import Mathlib.Order.Lattice
import NavigationBar.Proofs.Bar.Relaying
import NavigationBar.Proofs.Bar.ShownPopup

/-!
# When popups are taken off the page

The host is told to begin to hide a popup, and to take it off the page when its transition is over.
The second event is put on its way together with the first, and nothing takes it back. So each
popup is taken off the page the time of a transition after it was closed, whatever happens in
between; a popup that is opened again within this time is taken off the page while it is open.
-/

open Relation

namespace NavigationBar

/-! ## What plans put on its way -/

namespace Effect

/-- Some effects take a popup off the page only after they close it, the time of a transition later.
-/
structure Announces (effects : List Effect) : Prop where
  /-- Nothing is taken off the page at once. -/
  not_sent : ∀ route, .popupRemoved route ∉ sent effects
  later : ∀ delay route, sendLater delay (.popupRemoved route) ∈ effects →
    delay = Popup.closingTime ∧ .closePopup route ∈ sent effects

variable {current : Option Nat} {f : List Effect}

/-- What is closed and taken off in step is announced. -/
theorem Dismisses.announces (h : Dismisses f) : Announces f where
  not_sent := by
    intro route hsent
    have hnone : Event.removed? (.popupRemoved route) = none := h.delays _ (mem_sent.mp hsent)
    cases hnone
  later := by
    intro delay route hlater
    have hordered : route ∈ ordered Event.removed? f :=
      List.mem_filterMap.mpr ⟨_, hlater, rfl⟩
    rw [h.ordered_eq] at hordered
    obtain ⟨e, he, hclosed⟩ := List.mem_filterMap.mp hordered
    refine ⟨?_, ?_⟩
    · rcases h.delays _ hlater with hnone | hdelay
      · cases hnone
      · exact hdelay
    · cases e with
      | closePopup route' =>
        obtain rfl := Option.some.inj hclosed
        exact he
      | _ => cases hclosed

theorem Composed.announces (h : Composed current f) : Announces f :=
  h.dismisses.announces

end Effect

/-! ## Popups that were closed -/

namespace Popup

/-- Whether the popup of a route was closed the time of a transition before `time`, according to
what the host received. -/
def ClosedBefore (sent : List (Nat × Event)) (route time : Nat) : Prop :=
  ∃ closed, time = closed + closingTime ∧ (closed, .closePopup route) ∈ sent

variable {l m before after : List (Nat × Event)} {route time : Nat}

theorem ClosedBefore.mono (h : ClosedBefore l route time) (hl : l ⊆ m) :
    ClosedBefore m route time :=
  h.imp fun _ hc => hc.imp_right (hl ·)

/-- Whether every popup that the host was told to take off the page had been closed before, the time
of a transition ago. -/
def AllClosed (sent : List (Nat × Event)) : Prop :=
  ∀ before time route after, sent = before ++ (time, .popupRemoved route) :: after →
    ClosedBefore before route time

theorem AllClosed.append (hl : AllClosed l)
    (hm : ∀ time route, (time, .popupRemoved route) ∈ m → ClosedBefore l route time) :
    AllClosed (l ++ m) := by
  intro before time route after heq
  -- The cut is within the events that came later, or within those that were there before.
  rcases List.append_eq_append_iff.1 heq with ⟨as, hbefore, hm'⟩ | ⟨bs, hl', hafter⟩
  · refine (hm time route (by simp [hm'])).mono ?_
    rw [hbefore]
    exact List.subset_append_left l as
  · cases bs with
    | nil =>
      rw [List.nil_append] at hafter
      rw [List.append_nil] at hl'
      rw [← hl']
      exact hm time route (hafter ▸ .head _)
    | cons e bs =>
      obtain ⟨rfl, -⟩ := List.cons.inj hafter
      exact hl before time route bs hl'

end Popup

namespace Event

/-- A popup shows only if it did before or was opened. -/
theorem exists_opened {shown : Option Nat} {route : Nat} {l : List Event}
    (h : shownAfter shown l = some route) :
    shown = some route ∨ ∃ target, openPopup route target ∈ l := by
  induction l generalizing shown with
  | nil => exact .inl h
  | cons e l ih =>
    rcases ih h with he | ⟨target, ht⟩
    · cases e with
      | openPopup route' target =>
        obtain rfl := Option.some.inj he
        exact .inr ⟨target, .head _⟩
      | closePopup route' => cases he
      | _ => exact .inl he
    · exact .inr ⟨target, .tail _ ht⟩

end Event

/-! ## Executors -/

namespace Scheduled

variable {α : Type}

/-- Of ordered things, none remains that satisfies a condition which everything before such a thing
satisfies. -/
theorem not_of_mem_dropWhile {p : Scheduled α → Prop} [DecidablePred p]
    (hp : ∀ a b, a.NotAfter b → p b → p a) {l : List (Scheduled α)} (h : l.Pairwise NotAfter) :
    ∀ a ∈ l.dropWhile p, ¬ p a := by
  induction l with
  | nil => simp
  | cons b rest ih =>
    rw [List.pairwise_cons] at h
    by_cases hb : p b
    · rw [List.dropWhile_cons_of_pos (by simpa using hb)]
      exact ih h.2
    · rw [List.dropWhile_cons_of_neg (by simpa using hb)]
      intro a ha hpa
      rcases List.mem_cons.1 ha with rfl | ha
      · exact hb hpa
      · exact hb (hp b a (h.1 a ha) hpa)

end Scheduled

namespace Executor

/-- Events reach the host in the order of their times, and none is late. Every popup that was taken
off the page, or is going to be, was closed the time of a transition before. -/
structure Punctual (x : Executor) : Prop where
  isOpen : x.outbox.isOpen = true
  ordered : x.outbox.sent.Pairwise (·.1 ≤ ·.1)
  sent_le : ∀ e ∈ x.outbox.sent, e.1 ≤ x.clock.now
  le_waiting : ∀ s ∈ x.outbox.waiting.entries, x.clock.now ≤ s.due
  removed : Popup.AllClosed x.outbox.sent
  removing : ∀ s ∈ x.outbox.waiting.entries, ∀ route, s.value = .popupRemoved route →
    Popup.ClosedBefore x.outbox.sent route s.due

variable {x y : Executor}

theorem Punctual.perform (h : x.Punctual) {p : Plan} (hp : Effect.Announces p.effects) :
    (x.perform p).1.Punctual := by
  obtain ⟨hb, -⟩ := brought_bringAll h.isOpen p.effects
  change (x.bringAll p.effects).1.Punctual
  have hnow : ∀ e ∈ (Effect.sent p.effects).map (x.clock.now, ·), e.1 = x.clock.now := by
    simp
  exact {
    isOpen := hb.isOpen
    ordered := by
      rw [hb.sent_eq, List.pairwise_append]
      refine ⟨h.ordered, List.pairwise_map.2 (List.pairwise_of_forall fun _ _ => Nat.le_refl _), ?_⟩
      intro d hd e he
      rw [hnow e he]
      exact h.sent_le d hd
    sent_le := by
      intro e he
      rw [hb.sent_eq] at he
      rw [hb.now_eq]
      rcases List.mem_append.1 he with he | he
      · exact h.sent_le e he
      · exact (hnow e he).le
    le_waiting := by
      intro s hs
      rw [hb.now_eq]
      rcases hb.waiting s hs with hs | ⟨delay, -, hdue⟩
      · exact h.le_waiting s hs
      · omega
    removed := by
      rw [hb.sent_eq]
      refine h.removed.append ?_
      intro time route hm
      obtain ⟨e, he, heq⟩ := List.mem_map.1 hm
      obtain ⟨-, rfl⟩ := Prod.mk.inj heq
      exact absurd he (hp.not_sent route)
    removing := by
      intro s hs route hroute
      rw [hb.sent_eq]
      rcases hb.waiting s hs with hs | ⟨delay, hd, hdue⟩
      · exact (h.removing s hs route hroute).mono (List.subset_append_left _ _)
      · -- What the plan sends later follows the event by which it closes the popup now.
        obtain ⟨rfl, hclosed⟩ := hp.later delay route (hroute ▸ hd)
        exact ⟨x.clock.now, hdue, List.mem_append_right _ (List.mem_map_of_mem hclosed)⟩ }

/-- What is due by a time is delivered at its time, in its order. -/
theorem Punctual.deliver (h : x.Punctual) {p : Scheduled Event → Prop} [DecidablePred p]
    {time : Nat} (hp : ∀ a b, a.NotAfter b → p b → p a) (hdue : ∀ s, p s → s.due ≤ time)
    (hlate : ∀ s, ¬ p s → time ≤ s.due) :
    { x with outbox := x.outbox.deliver p, clock := x.clock.advance time }.Punctual := by
  have hsent := Outbox.sent_deliver h.isOpen fun s => decide (p s)
  have hfirst : ∀ e ∈ (x.outbox.waiting.takeWhile p).map fun s => (s.due, s.value),
      ∃ s ∈ x.outbox.waiting.entries, p s ∧ e = (s.due, s.value) := by
    intro e he
    obtain ⟨s, hs, rfl⟩ := List.mem_map.1 he
    have hp := List.mem_takeWhile_imp hs
    exact ⟨s, (List.takeWhile_sublist _).subset hs, by simpa using hp, rfl⟩
  have hrest : ∀ s ∈ (x.outbox.deliver p).waiting.entries, s ∈ x.outbox.waiting.entries :=
    fun s hs => (List.dropWhile_sublist _).subset hs
  exact {
    isOpen := h.isOpen
    ordered := by
      dsimp only
      rw [hsent, List.pairwise_append]
      refine ⟨h.ordered, ?_, ?_⟩
      · refine List.Pairwise.map _ ?_ (x.outbox.waiting.ordered.sublist (List.takeWhile_sublist _))
        intro a b hab
        unfold Scheduled.NotAfter at hab
        dsimp only
        omega
      · intro d hd e he
        obtain ⟨s, hs, -, rfl⟩ := hfirst e he
        exact (h.sent_le d hd).trans (h.le_waiting s hs)
    sent_le := by
      intro e he
      dsimp only [Clock.advance] at he ⊢
      rw [hsent] at he
      rcases List.mem_append.1 he with he | he
      · exact (h.sent_le e he).trans (Nat.le_max_left ..)
      · obtain ⟨s, -, hs, rfl⟩ := hfirst e he
        exact (hdue s hs).trans (Nat.le_max_right ..)
    le_waiting := by
      intro s hs
      have hnot := Scheduled.not_of_mem_dropWhile hp x.outbox.waiting.ordered s hs
      exact Nat.max_le.2 ⟨h.le_waiting s (hrest s hs), hlate s hnot⟩
    removed := by
      dsimp only
      rw [hsent]
      refine h.removed.append ?_
      intro time' route hm
      obtain ⟨s, hs, -, heq⟩ := hfirst _ hm
      obtain ⟨rfl, hvalue⟩ := Prod.mk.inj heq
      exact h.removing s hs route hvalue.symm
    removing := by
      intro s hs route hroute
      dsimp only
      rw [hsent]
      exact (h.removing s (hrest s hs) route hroute).mono (List.subset_append_left _ _) }

theorem Punctual.move (h : x.Punctual) (hm : Moves x y) : y.Punctual := by
  cases hm with
  | perform hp => exact h.perform hp.composed.announces
  | haptics => exact { h with }
  | clock _ hnow =>
    exact { h with
      sent_le := fun e he => (h.sent_le e he).trans hnow.ge
      le_waiting := fun s hs => hnow.le.trans (h.le_waiting s hs) }
  | deliverBefore _ a =>
    refine h.deliver (p := fun s => s.NotAfter a) ?_ ?_ ?_
    · intro b c hbc hc
      unfold Scheduled.NotAfter at *
      omega
    · intro s hs
      unfold Scheduled.NotAfter at hs
      omega
    · intro s hs
      unfold Scheduled.NotAfter at hs
      omega
  | settle _ time =>
    refine h.deliver (p := fun s => s.due ≤ time) ?_ (fun _ hs => hs) (fun _ hs => by omega)
    intro b c hbc hc
    unfold Scheduled.NotAfter at hbc
    omega

theorem Punctual.moves (h : x.Punctual) (hm : ReflTransGen Moves x y) : y.Punctual := by
  induction hm with
  | refl => exact h
  | tail _ hm ih => exact ih.move hm

end Executor

/-! ## Bars -/

namespace BarRun

theorem punctual_started (config : Config) : (started config).bar.executor.Punctual where
  isOpen := rfl
  ordered := .nil
  sent_le := by simp [started, Bar.ofConfig]
  le_waiting := by simp [started, Bar.ofConfig, Agenda.empty]
  removed := by simp [Popup.AllClosed, started, Bar.ofConfig]
  removing := by simp [started, Bar.ofConfig, Agenda.empty]

/-- Whatever is done with a bar while its host listens, a popup is taken off the page the time of a
transition after it was closed. If it shows then, which is to say that it counts as open, it was
opened again in the meantime. -/
theorem removed_after_close (config : Config) (steps : List BarStep) (h : .hostGone ∉ steps) :
    let bar := ((started config).run steps).bar
    Event.shownAfter none bar.executor.received = bar.openRoute ∧
    ∀ before time route after,
      bar.executor.outbox.sent = before ++ (time, .popupRemoved route) :: after →
      ∃ closed earlier later,
        time = closed + Popup.closingTime ∧
        before = earlier ++ (closed, .closePopup route) :: later ∧
        (Event.shownAfter none (before.map Prod.snd) = some route →
          ∃ opened target, (opened, .openPopup route target) ∈ later ∧
            closed ≤ opened ∧ opened ≤ time) := by
  have hmoves := (started config).moves_run h
  have hpunctual := (punctual_started config).moves hmoves
  refine ⟨((inStep_started config).moves hmoves).shown_eq, ?_⟩
  intro before time route after heq
  obtain ⟨closed, htime, hclosed⟩ := hpunctual.removed before time route after heq
  obtain ⟨earlier, later, rfl⟩ := List.append_of_mem hclosed
  refine ⟨closed, earlier, later, htime, rfl, ?_⟩
  intro hshown
  -- Nothing shows right after the popup was closed.
  have hlater : Event.shownAfter none (later.map Prod.snd) = some route := by
    rw [List.map_append, Event.shownAfter_append] at hshown
    exact hshown
  rcases Event.exists_opened hlater with hnone | ⟨target, ht⟩
  · cases hnone
  · obtain ⟨⟨opened, e⟩, he, rfl⟩ := List.mem_map.1 ht
    have hordered := hpunctual.ordered
    rw [heq, List.pairwise_append, List.pairwise_append] at hordered
    obtain ⟨⟨-, hlater, -⟩, -, hbefore⟩ := hordered
    exact ⟨opened, target, he, (List.pairwise_cons.1 hlater).1 _ he,
      hbefore _ (List.mem_append_right _ (.tail _ he)) _ (.head _)⟩

/-- A popup is opened, closed, and opened again while its transition goes on, which then ends. -/
def reopenedPopup : List BarStep :=
  [.dispatch (.route 0) .tap "a", .sleep 50, .closePopup, .sleep 100,
    .dispatch (.route 0) .tap "a", .sleep 100]

/-- The popup shows when it is taken off the page, as it was opened again in the meantime. -/
theorem removed_after_close_reopened :
    let bar := ((started { routes := [popupRoute "/x"] }).run reopenedPopup).bar
    let before : List (Nat × Event) :=
      [(0, .resetRipple "a"), (0, .openPopup 0 "a"), (50, .closePopup 0), (150, .resetRipple "a"),
        (150, .openPopup 0 "a")]
    bar.executor.outbox.sent = before ++ [(250, .popupRemoved 0)] ∧
    Event.shownAfter none (before.map Prod.snd) = some 0 ∧
    ∃ closed earlier later,
      250 = closed + Popup.closingTime ∧
      before = earlier ++ (closed, .closePopup 0) :: later ∧
      ∃ opened target, (opened, .openPopup 0 target) ∈ later ∧ closed ≤ opened ∧ opened ≤ 250 := by
  intro bar before
  obtain ⟨-, hremoved⟩ :=
    removed_after_close { routes := [popupRoute "/x"] } reopenedPopup (by simp [reopenedPopup])
  obtain ⟨closed, earlier, later, htime, hbefore, hagain⟩ := hremoved before 250 0 [] rfl
  exact ⟨rfl, rfl, closed, earlier, later, htime, hbefore, hagain rfl⟩

/-- A popup can be taken off the page while it is open. -/
theorem removed_while_open :
    let reopened := (started { routes := [popupRoute "/x"] }).run
      [.dispatch (.route 0) .tap "a", .closePopup, .dispatch (.route 0) .tap "a"]
    let later := reopened.run [.sleep 200]
    reopened.bar.openRoute = some 0 ∧
    later.bar.executor.outbox.sent =
      reopened.bar.executor.outbox.sent ++ [(200, .popupRemoved 0)] ∧
    later.bar.openRoute = some 0 :=
  ⟨rfl, rfl, rfl⟩

end BarRun

end NavigationBar
