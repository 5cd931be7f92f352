import NavigationBar.Proofs.Bar.Carrying

/-!
# The popup that the host shows

The host learns of popups only from the events it receives: one opens the popup of a route, another
closes it. An executor records which popup is open before it sends these events. As long as the host
listens, the two agree after everything that is done with a bar, and the host is never told to close
a popup that it does not show, nor to open one over another.

Plans are seen as lists of effects here. What is said about a list of effects holds of lists that
are put together when each part starts from the popup that the part before leaves open.
-/

open Relation

namespace NavigationBar

/-! ## What the host makes of events -/

namespace Event

/-- The popup that the host shows after an event, if it showed `shown` before. -/
def shows (shown : Option Nat) : Event → Option Nat
  | openPopup route _ => some route
  | closePopup _ => none
  | _ => shown

/-- Whether an event can be carried out by a host that shows `shown`: it opens a popup over no other
one, and closes none but the one that is there. -/
def Suits (shown : Option Nat) : Event → Prop
  | openPopup route _ => shown = none ∨ shown = some route
  | closePopup route => shown = some route
  | _ => True

/-- Whether an event opens and closes nothing. -/
def IsNeutral : Event → Prop
  | openPopup _ _ | closePopup _ => False
  | _ => True

variable {e : Event} {l m : List Event} {shown : Option Nat}

theorem IsApart.isNeutral (h : e.IsApart) : e.IsNeutral := by
  cases e <;> trivial

theorem IsNeutral.shows_eq (h : e.IsNeutral) : e.shows shown = shown := by
  cases e <;> first | rfl | exact h.elim

theorem IsNeutral.suits (h : e.IsNeutral) : e.Suits shown := by
  cases e <;> trivial

/-- The popup that the host shows after some events, if it showed `shown` before. -/
def shownAfter (shown : Option Nat) (l : List Event) : Option Nat :=
  l.foldl shows shown

theorem shownAfter_append : shownAfter shown (l ++ m) = shownAfter (shownAfter shown l) m :=
  List.foldl_append

/-- Whether each of some events can be carried out when its turn comes. -/
def AllSuit : Option Nat → List Event → Prop
  | _, [] => True
  | shown, e :: l => e.Suits shown ∧ AllSuit (e.shows shown) l

theorem allSuit_append :
    AllSuit shown (l ++ m) ↔ AllSuit shown l ∧ AllSuit (shownAfter shown l) m := by
  induction l generalizing shown with
  | nil => simp [AllSuit, shownAfter]
  | cons e l ih => simp [AllSuit, ih, and_assoc, shownAfter]

theorem AllSuit.suits (h : AllSuit shown (l ++ e :: m)) : e.Suits (shownAfter shown l) :=
  (allSuit_append.1 h).2.1

theorem shownAfter_neutral (h : ∀ e ∈ l, e.IsNeutral) : shownAfter shown l = shown := by
  induction l with
  | nil => rfl
  | cons e l ih =>
    rw [List.forall_mem_cons] at h
    rw [shownAfter, List.foldl_cons, h.1.shows_eq]
    exact ih h.2

theorem allSuit_neutral (h : ∀ e ∈ l, e.IsNeutral) : AllSuit shown l := by
  induction l generalizing shown with
  | nil => trivial
  | cons e l ih =>
    rw [List.forall_mem_cons] at h
    exact ⟨h.1.suits, ih h.2⟩

end Event

/-! ## What effects amount to -/

namespace Effect

/-- Some effects, begun while the popup of `current` both shows and counts as open, ask nothing of
the host that it cannot do, and make the popup that shows in the end the one that counts as open. -/
structure Agree (current : Option Nat) (effects : List Effect) : Prop where
  suit : Event.AllSuit current (sent effects)
  shown_eq : Event.shownAfter current (sent effects) = openAfter current effects
  /-- What is sent later opens and closes nothing. -/
  later : ∀ delay e, sendLater delay e ∈ effects → e.IsNeutral

variable {current : Option Nat} {f g : List Effect}

theorem Agree.append (hf : Agree current f) (hg : Agree (openAfter current f) g) :
    Agree current (f ++ g) where
  suit := by
    rw [sent_append, Event.allSuit_append, hf.shown_eq]
    exact ⟨hf.suit, hg.suit⟩
  shown_eq := by
    rw [sent_append, Event.shownAfter_append, hf.shown_eq, hg.shown_eq, openAfter_append]
  later := fun delay e h => (List.mem_append.1 h).elim (hf.later delay e) (hg.later delay e)

theorem agree_apart (h : ∀ x ∈ f, x.IsApart) : Agree current f := by
  have hsent : ∀ e ∈ sent f, e.IsNeutral := fun e he =>
    Event.IsApart.isNeutral (h _ (mem_sent.1 he))
  exact {
    suit := Event.allSuit_neutral hsent
    shown_eq := by rw [Event.shownAfter_neutral hsent, openAfter_apart h]
    later := fun delay e he => Event.IsApart.isNeutral (h _ he) }

theorem agree_closeAny (current : Option Nat) : Agree current (Popup.closeAny current) := by
  cases current with
  | none => exact agree_apart (by simp [Popup.closeAny])
  | some route =>
    refine ⟨⟨rfl, trivial⟩, rfl, ?_⟩
    intro delay e he
    simp only [Popup.closeAny, Popup.dismiss, List.mem_cons, List.not_mem_nil, reduceCtorEq,
      false_or, or_false, sendLater.injEq] at he
    obtain ⟨rfl, rfl⟩ := he
    trivial

theorem agree_opening (current : Option Nat) (route : Nat) (target : Target) :
    Agree current (Popup.opening current route target) := by
  unfold Popup.opening
  split
  · rename_i other
    split
    · rename_i hsame
      exact ⟨⟨.inr (by rw [hsame]), trivial⟩, rfl, by simp⟩
    · -- The other popup is closed first, although `route` counts as open by then.
      refine ⟨⟨rfl, .inl rfl, trivial⟩, rfl, ?_⟩
      intro delay e he
      simp only [Popup.dismiss, List.cons_append, List.nil_append, List.mem_cons, List.not_mem_nil,
        reduceCtorEq, false_or, or_false, sendLater.injEq] at he
      obtain ⟨rfl, rfl⟩ := he
      trivial
  · exact ⟨⟨.inl rfl, trivial⟩, rfl, by simp⟩

theorem Composed.agree (h : Composed current f) : Agree current f := by
  induction h with
  | apart h => exact agree_apart h
  | closing current => exact agree_closeAny current
  | opening current route target => exact agree_opening current route target
  | append _ _ ihf ihg => exact ihf.append ihg

end Effect

/-! ## Executors -/

namespace Executor

/-- An executor and the host agree about popups. -/
structure InStep (x : Executor) : Prop where
  isOpen : x.outbox.isOpen = true
  suit : Event.AllSuit none x.received
  shown_eq : Event.shownAfter none x.received = x.openRoute
  /-- What is on its way opens and closes nothing. -/
  waiting : ∀ s ∈ x.outbox.waiting.entries, s.value.IsNeutral

variable {x y : Executor}

theorem InStep.perform (h : x.InStep) {p : Plan} (hp : Effect.Agree x.openRoute p.effects) :
    (x.perform p).1.InStep := by
  obtain ⟨hb, -⟩ := brought_bringAll h.isOpen p.effects
  exact {
    isOpen := hb.isOpen
    suit := by
      change Event.AllSuit none (x.bringAll p.effects).1.received
      rw [hb.received_eq, Event.allSuit_append, h.shown_eq]
      exact ⟨h.suit, hp.suit⟩
    shown_eq := by
      change Event.shownAfter none (x.bringAll p.effects).1.received = _
      rw [hb.received_eq, Event.shownAfter_append, h.shown_eq, hp.shown_eq]
      exact hb.openRoute_eq.symm
    waiting := by
      intro s hs
      rcases hb.waiting s hs with hs | ⟨delay, hd, -⟩
      · exact h.waiting s hs
      · exact hp.later delay _ hd }

/-- Nothing that is delivered late opens or closes a popup. -/
theorem InStep.deliver (h : x.InStep) (p : Scheduled Event → Bool) (clock : Clock) :
    { x with outbox := x.outbox.deliver p, clock }.InStep := by
  have hneutral : ∀ e ∈ (x.outbox.waiting.takeWhile p).map Scheduled.value, e.IsNeutral := by
    intro e he
    obtain ⟨s, hs, rfl⟩ := List.mem_map.1 he
    exact h.waiting s ((List.takeWhile_sublist p).subset hs)
  have hreceived : { x with outbox := x.outbox.deliver p, clock }.received =
      x.received ++ (x.outbox.waiting.takeWhile p).map Scheduled.value := by
    simp [received, Outbox.sent_deliver h.isOpen, Function.comp_def]
  exact {
    isOpen := h.isOpen
    suit := by
      rw [hreceived, Event.allSuit_append]
      exact ⟨h.suit, Event.allSuit_neutral hneutral⟩
    shown_eq := by
      rw [hreceived, Event.shownAfter_append, Event.shownAfter_neutral hneutral]
      exact h.shown_eq
    waiting := fun s hs => h.waiting s ((List.dropWhile_sublist p).subset hs) }

theorem InStep.move (h : x.InStep) (hm : Moves x y) : y.InStep := by
  cases hm with
  | perform hp => exact h.perform hp.composed.agree
  | haptics => exact ⟨h.isOpen, h.suit, h.shown_eq, h.waiting⟩
  | clock => exact ⟨h.isOpen, h.suit, h.shown_eq, h.waiting⟩
  | deliverBefore a => exact h.deliver _ _
  | settle time => exact h.deliver _ _

theorem InStep.moves (h : x.InStep) (hm : ReflTransGen Moves x y) : y.InStep := by
  induction hm with
  | refl => exact h
  | tail _ hm ih => exact ih.move hm

end Executor

namespace BarRun

theorem inStep_started (config : Config) : (started config).bar.executor.InStep where
  isOpen := rfl
  suit := trivial
  shown_eq := rfl
  waiting := by simp [started, Bar.ofConfig, Agenda.empty]

/-- Whatever is done with a bar while its host listens, the popup that the host shows is the one
that counts as open. The host is told to close a popup only while it shows that one, and to open a
popup only while it shows none or that very one. -/
theorem shown_eq_openRoute (config : Config) (steps : List BarStep) (h : .hostGone ∉ steps) :
    let bar := ((started config).run steps).bar
    Event.shownAfter none bar.executor.received = bar.openRoute ∧
    (∀ before route after,
      bar.executor.received = before ++ .closePopup route :: after →
      Event.shownAfter none before = some route) ∧
    (∀ before route target after,
      bar.executor.received = before ++ .openPopup route target :: after →
      Event.shownAfter none before = none ∨ Event.shownAfter none before = some route) := by
  have hstep := (inStep_started config).moves ((started config).moves_run h)
  refine ⟨hstep.shown_eq, ?_, ?_⟩
  · intro before route after heq
    exact (heq ▸ hstep.suit).suits
  · intro before route target after heq
    exact (heq ▸ hstep.suit).suits

/-- A route with a popup, which a tap opens. -/
def popupRoute (url : String) : Route where
  item := { tapAction := some (.own .openPopup) }
  submenu := some [{ url := some url }]

/-- The popups of two routes are opened in turn, and the bar gets another configuration. -/
def popupsInTurn : List BarStep :=
  [.dispatch (.route 0) .tap "a", .dispatch (.route 1) .tap "b", .sleep 10, .setConfig {}]

/-- Each popup is closed before anything else shows. -/
theorem shown_eq_openRoute_in_turn :
    let bar := ((started { routes := [popupRoute "/x", popupRoute "/y"] }).run popupsInTurn).bar
    bar.executor.received =
      [.resetRipple "a", .openPopup 0 "a", .resetRipple "b", .closePopup 0, .openPopup 1 "b",
        .closePopup 1] ∧
    bar.openRoute = none ∧
    Event.shownAfter none bar.executor.received = bar.openRoute :=
  ⟨rfl, rfl, (shown_eq_openRoute _ popupsInTurn (by simp [popupsInTurn])).1⟩

end BarRun

end NavigationBar
