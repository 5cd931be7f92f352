import NavigationBar.Proofs.Bar.Executing

/-!
# Events that wait equally long

Events of one kind are put on their way with the same delay, so they do not overtake each other.
What the host received of them, followed by what is on its way, is what was put on its way, in that
order and a delay later. Popups are taken off the page in this way after they were closed, and
actions of the host follow their gestures.
-/

namespace NavigationBar

variable {β : Type}

/-! ## Kinds of events -/

namespace Event

/-- The route whose popup begins to hide. -/
def closed? : Event → Option Nat
  | closePopup route => some route
  | _ => none

/-- The route whose popup is taken off the page. -/
def removed? : Event → Option Nat
  | popupRemoved route => some route
  | _ => none

/-- An event that runs an action of the host's own. -/
def action? : Event → Option Event
  | action g config entity => some (action g config entity)
  | _ => none

/-- What events of a kind tell, and when. -/
def picked (pick : Event → Option β) (l : List (Nat × Event)) : List (Nat × β) :=
  l.filterMap fun p => (pick p.2).map (p.1, ·)

variable {pick : Event → Option β}

theorem picked_append (l m : List (Nat × Event)) :
    picked pick (l ++ m) = picked pick l ++ picked pick m :=
  List.filterMap_append

theorem picked_eq_nil {l : List (Nat × Event)} (h : ∀ p ∈ l, pick p.2 = none) :
    picked pick l = [] := by
  rw [picked, List.filterMap_eq_nil_iff]
  intro p hp
  rw [h p hp]
  rfl

theorem picked_at (time : Nat) (l : List Event) :
    picked pick (l.map (time, ·)) = (l.filterMap pick).map (time, ·) := by
  rw [picked, List.filterMap_map, List.map_filterMap]
  rfl

theorem removed?_of_isApart {e : Event} (h : e.IsApart) : removed? e = none := by
  cases e with
  | popupRemoved route => exact h.elim
  | _ => rfl

theorem closed?_of_isApart {e : Event} (h : e.IsApart) : closed? e = none := by
  cases e with
  | closePopup route => exact h.elim
  | _ => rfl

end Event

open Event

/-! ## What plans put on its way -/

namespace Effect

/-- Whether an effect sends events of a kind after a delay, if it sends any. -/
def Delays (pick : Event → Option β) (delay : Nat) : Effect → Prop
  | setOpen _ => True
  | send e => pick e = none
  | sendLater d e => pick e = none ∨ d = delay

/-- What an event of a kind tells that an effect puts on its way. -/
def ordered? (pick : Event → Option β) : Effect → Option β
  | sendLater _ e => pick e
  | _ => none

/-- What the events of a kind tell that some effects put on their way. -/
def ordered (pick : Event → Option β) (effects : List Effect) : List β :=
  effects.filterMap (ordered? pick)

variable {pick : Event → Option β} {current : Option Nat} {f g : List Effect}

theorem ordered_append : ordered pick (f ++ g) = ordered pick f ++ ordered pick g :=
  List.filterMap_append

/-- Every popup that some effects close is taken off the page by them, the time of a transition
later, and no other one is. None is closed later. -/
structure Dismisses (effects : List Effect) : Prop where
  delays : ∀ x ∈ effects, x.Delays removed? Popup.closingTime
  ordered_eq : ordered removed? effects = (sent effects).filterMap closed?
  not_later : ordered closed? effects = []

theorem Dismisses.append (hf : Dismisses f) (hg : Dismisses g) : Dismisses (f ++ g) where
  delays := List.forall_mem_append.mpr ⟨hf.delays, hg.delays⟩
  ordered_eq := by
    rw [ordered_append, sent_append, List.filterMap_append, hf.ordered_eq, hg.ordered_eq]
  not_later := by
    rw [ordered_append, hf.not_later, hg.not_later, List.append_nil]

theorem dismisses_apart (h : ∀ x ∈ f, x.IsApart) : Dismisses f := by
  induction f with
  | nil => exact ⟨by simp, rfl, rfl⟩
  | cons x f ih =>
    obtain ⟨hx, hf⟩ := List.forall_mem_cons.mp h
    have hrest := ih hf
    have hone : Dismisses [x] := by
      cases x with
      | setOpen route => exact hx.elim
      | send e =>
        have hremoved := removed?_of_isApart hx
        have hclosed := closed?_of_isApart hx
        refine ⟨by simpa [Delays] using hremoved, ?_, rfl⟩
        show [] = List.filterMap closed? [e]
        rw [List.filterMap_cons_none hclosed, List.filterMap_nil]
      | sendLater delay e =>
        have hremoved := removed?_of_isApart hx
        have hclosed := closed?_of_isApart hx
        refine ⟨by simpa [Delays] using Or.inl hremoved, ?_, ?_⟩
        · exact List.filterMap_cons_none hremoved
        · exact List.filterMap_cons_none hclosed
    exact hone.append hrest

theorem dismisses_dismiss (route : Nat) : Dismisses (Popup.dismiss route) where
  delays := by simp [Popup.dismiss, Delays, removed?]
  ordered_eq := rfl
  not_later := rfl

/-- Which popup counts as open plays no part. -/
theorem Dismisses.setOpen_cons (h : Dismisses f) (route : Option Nat) :
    Dismisses (setOpen route :: f) where
  delays := List.forall_mem_cons.mpr ⟨trivial, h.delays⟩
  ordered_eq := h.ordered_eq
  not_later := h.not_later

theorem dismisses_closeAny (current : Option Nat) : Dismisses (Popup.closeAny current) := by
  cases current with
  | none => exact dismisses_apart (by simp [Popup.closeAny])
  | some route => exact (dismisses_dismiss route).setOpen_cons none

theorem dismisses_opening (current : Option Nat) (route : Nat) (target : Target) :
    Dismisses (Popup.opening current route target) := by
  have hopen : Dismisses [.send (.openPopup route target)] :=
    ⟨by simp [Delays, removed?], rfl, rfl⟩
  unfold Popup.opening
  refine .setOpen_cons (.append ?_ hopen) _
  split
  · split
    · exact dismisses_apart (by simp)
    · exact dismisses_dismiss _
  · exact dismisses_apart (by simp)

theorem Composed.dismisses (h : Composed current f) : Dismisses f := by
  induction h with
  | apart h => exact dismisses_apart h
  | closing current => exact dismisses_closeAny current
  | opening current route target => exact dismisses_opening current route target
  | append _ _ ihf ihg => exact ihf.append ihg

/-- Whether an effect sends no event of a kind, neither at once nor later. -/
def Avoids (pick : Event → Option β) : Effect → Prop
  | setOpen _ => True
  | send e | sendLater _ e => pick e = none

theorem Avoids.delays {x : Effect} (h : x.Avoids pick) (delay : Nat) : x.Delays pick delay := by
  cases x with
  | setOpen route => trivial
  | send e => exact h
  | sendLater d e => exact Or.inl h

theorem IsPlain.avoids {x : Effect} (h : x.IsPlain) : x.Avoids action? := by
  cases x with
  | send e =>
    cases e with
    | action g config entity => exact h.elim
    | _ => rfl
  | setOpen route => exact h.elim
  | sendLater delay e => exact h.elim

theorem ordered_of_avoids (h : ∀ x ∈ f, x.Avoids pick) : ordered pick f = [] := by
  rw [ordered, List.filterMap_eq_nil_iff]
  intro x hx
  have havoids := h x hx
  cases x with
  | setOpen route => rfl
  | send e => rfl
  | sendLater d e => exact havoids

end Effect

namespace Plan

open Effect

variable (h : Option Haptics) (current : Option Nat) (c : Template.Context) (o : Occasion)

theorem avoids_closeAny : ∀ x ∈ Popup.closeAny current, x.Avoids action? := by
  cases current with
  | none => simp [Popup.closeAny]
  | some route => simp [Popup.closeAny, Popup.dismiss, Avoids, action?]

theorem avoids_opening_popup (route : Nat) (target : Target) :
    ∀ x ∈ Popup.opening current route target, x.Avoids action? := by
  unfold Popup.opening
  split
  · split <;> simp [Popup.dismiss, Avoids, action?]
  · simp [Avoids, action?]

theorem avoids_opening (a : Option Action) : ∀ x ∈ opening current a o, x.Avoids action? := by
  intro x hx
  rcases List.mem_cons.mp hx with rfl | hx
  · rfl
  · split at hx
    · cases hx
    · cases hroute : o.owner.popupRoute? with
      | none =>
        rw [hroute] at hx
        cases hx
      | some route =>
        rw [hroute, Option.map_some, Option.getD_some, Popup.close] at hx
        split at hx
        · exact avoids_closeAny current x hx
        · cases hx

theorem avoids_ofNothing : ∀ x ∈ (ofNothing h o).effects, x.Avoids action? :=
  fun x hx => (plain_ofNothing h o x hx).avoids

theorem avoids_vibration (g : Gesture) (isNavigation : Bool) :
    ∀ x ∈ vibration h g isNavigation, x.Avoids action? :=
  fun x hx => (plain_vibration h g isNavigation x hx).avoids

theorem avoids_ofOwn (own : OwnAction) :
    ∀ x ∈ (ofOwn h current c o own).effects, x.Avoids action? := by
  by_cases hown : own = .openPopup
  · subst hown
    cases howner : o.owner with
    | route index url entries =>
      simp only [ofOwn, howner]
      split
      · simp
      · exact List.forall_mem_append.mpr
          ⟨avoids_vibration h _ _, avoids_opening_popup current index o.target⟩
    | entry route index url | widget => simp [ofOwn, howner]
  · exact fun x hx => (plain_ofOwn h current c o hown x hx).avoids

/-- The event by which the host is told of an action, if that is one of its own. -/
def called? (g : Gesture) : Option Action → Option Event
  | some (.host fields) =>
    let entity := (Action.host fields).entity?
    some (.action g (hostConfig g fields entity) entity)
  | _ => none

/-- A plan puts an event on its way that runs an action of the host's own if its action is one, and
has no other such event. -/
theorem delays_of_and_ordered_of (a : Option Action) :
    (∀ x ∈ (of h current c a o).effects, x.Delays action? hostDelay) ∧
      ordered action? (of h current c a o).effects = (called? o.gesture a).toList := by
  have hopening := avoids_opening current o a
  have hquiet : ∀ f : List Effect, (∀ x ∈ f, x.Avoids action?) →
      (∀ x ∈ opening current a o ++ f, x.Delays action? hostDelay) ∧
        ordered action? (opening current a o ++ f) = [] := by
    intro f hf
    have hall := List.forall_mem_append.mpr ⟨hopening, hf⟩
    exact ⟨fun x hx => (hall x hx).delays hostDelay, ordered_of_avoids hall⟩
  match a with
  | none => exact hquiet _ (avoids_ofNothing h o)
  | some (.own own) => exact hquiet _ (avoids_ofOwn h current c o own)
  | some (.host fields) =>
    obtain ⟨hdelays, hnone⟩ := hquiet _ (avoids_vibration h o.gesture false)
    have heffects : (of h current c (some (.host fields)) o).effects =
        (opening current (some (.host fields)) o ++ vibration h o.gesture false) ++
          (called? o.gesture (some (.host fields))).toList.map (.sendLater hostDelay) := by
      rw [List.append_assoc]
      rfl
    rw [heffects, ordered_append, hnone, List.nil_append]
    refine ⟨List.forall_mem_append.mpr ⟨hdelays, ?_⟩, rfl⟩
    simp [called?, Delays]

end Plan

/-! ## Agendas -/

namespace Scheduled

variable {α : Type}

/-- Something that happens after all others of its kind is the last of its kind. -/
theorem filterMap_insert {a : Scheduled α} {l : List (Scheduled α)} (hl : l.Pairwise NotAfter)
    {f : Scheduled α → Option β} (h : f a = none ∨ ∀ b ∈ l, f b = none ∨ b.NotAfter a) :
    (insert a l).filterMap f = l.filterMap f ++ (f a).toList := by
  induction l with
  | nil => cases hfa : f a <;> simp [insert, hfa]
  | cons b rest ih =>
    obtain ⟨hb, hrest⟩ := List.pairwise_cons.mp hl
    have hrest' : f a = none ∨ ∀ b ∈ rest, f b = none ∨ b.NotAfter a :=
      h.imp_right fun hall x hx => hall x (List.mem_cons_of_mem b hx)
    unfold insert
    split
    · rw [List.filterMap_cons, List.filterMap_cons, ih hrest hrest']
      cases f b <;> rfl
    · rename_i hafter
      rw [List.filterMap_cons]
      cases hfa : f a with
      | none => simp
      | some y =>
        -- What stands behind would have to happen before, but is in order.
        have hnone : (b :: rest).filterMap f = [] := by
          rw [List.filterMap_eq_nil_iff]
          intro x hx
          rcases h with h | h
          · rw [h] at hfa
            cases hfa
          · refine (h x hx).resolve_right fun hxa => hafter ?_
            rcases List.mem_cons.mp hx with rfl | hx
            · exact hxa
            · exact (hb x hx).trans hxa
        rw [hnone]
        rfl

end Scheduled

/-! ## Executors -/

/-- Delivering moves what is on its way to what was received. -/
theorem Outbox.sent_append_awaited_deliver {o : Outbox} (h : o.isOpen = true)
    (p : Scheduled Event → Bool) :
    (o.deliver p).sent ++ (o.deliver p).awaited = o.sent ++ o.awaited := by
  have hsplit : o.waiting.takeWhile p ++ (o.waiting.dropWhile p).entries = o.waiting.entries :=
    List.takeWhile_append_dropWhile
  rw [sent_deliver h, List.append_assoc]
  show o.sent ++ ((o.waiting.takeWhile p).map _ ++ (o.waiting.dropWhile p).entries.map _) = _
  rw [← List.map_append, hsplit]
  rfl

theorem Outbox.picked_awaited (pick : Event → Option β) (o : Outbox) :
    picked pick o.awaited =
      o.waiting.entries.filterMap fun s => (pick s.value).map (s.due, ·) := by
  rw [picked, awaited, List.filterMap_map]
  rfl

namespace Executor

/-- What the host received of events of a kind, followed by what is on its way, is what `orders`
says, a delay later. -/
structure Relays (pick : Event → Option β) (delay : Nat) (x : Executor)
    (orders : List (Nat × β)) : Prop where
  isOpen : x.outbox.isOpen = true
  stamp_lt : ∀ s ∈ x.outbox.waiting.entries, s.stamp < x.clock.stamp
  due_le : ∀ s ∈ x.outbox.waiting.entries, pick s.value = none ∨ s.due ≤ x.clock.now + delay
  relayed : picked pick (x.outbox.sent ++ x.outbox.awaited) =
    orders.map fun p => (p.1 + delay, p.2)

variable {pick : Event → Option β} {delay : Nat} {x y : Executor} {orders : List (Nat × β)}

/-- What is put on its way comes last of its kind: what waits of the kind waits as long, and was put
on its way before. -/
theorem Relays.sendLater (h : x.Relays pick delay orders) {d : Nat} {e : Event}
    (he : pick e = none ∨ d = delay) :
    ({ x with outbox := x.outbox.sendLater x.clock d e, clock := x.clock.tick } : Executor).Relays
      pick delay (orders ++ (pick e).toList.map (x.clock.now, ·)) := by
  let s : Scheduled Event := ⟨x.clock.now + d, x.clock.stamp, e⟩
  refine ⟨h.isOpen, ?_, ?_, ?_⟩
  · intro t ht
    show t.stamp < x.clock.stamp + 1
    rcases Agenda.mem_add.mp ht with rfl | ht
    · exact Nat.lt_succ_self x.clock.stamp
    · have hlt := h.stamp_lt t ht
      omega
  · intro t ht
    rcases Agenda.mem_add.mp ht with rfl | ht
    · exact he.imp_right fun hd => (congrArg (x.clock.now + ·) hd).le
    · exact h.due_le t ht
  · have hlast : (pick e).map (s.due, ·) = none ∨ ∀ t ∈ x.outbox.waiting.entries,
        (pick t.value).map (t.due, ·) = none ∨ t.NotAfter s := by
      simp only [Option.map_eq_none_iff]
      refine he.imp_right fun hd t ht => ?_
      refine (h.due_le t ht).imp_right fun hdue => ?_
      have hlt := h.stamp_lt t ht
      unfold Scheduled.NotAfter
      show t.due < x.clock.now + d ∨ t.due = x.clock.now + d ∧ t.stamp ≤ x.clock.stamp
      omega
    have hinsert := Scheduled.filterMap_insert (a := s) x.outbox.waiting.ordered
      (f := fun t => (pick t.value).map (t.due, ·)) hlast
    have hnew : ((pick e).map (s.due, ·)).toList =
        ((pick e).toList.map (x.clock.now, ·)).map fun p => (p.1 + delay, p.2) := by
      rcases he with hnone | rfl
      · rw [hnone]
        rfl
      · cases pick e <;> rfl
    rw [List.map_append, ← h.relayed, picked_append, picked_append, Outbox.picked_awaited,
      Outbox.picked_awaited, List.append_assoc, ← hnew, ← hinsert]
    rfl

/-- What an effect puts on its way comes last of its kind. -/
theorem Relays.bring? (h : x.Relays pick delay orders) {e : Effect} (he : e.Delays pick delay) :
    ∃ y, x.bring? e = some y ∧ y.clock.now = x.clock.now ∧
      y.Relays pick delay (orders ++ (e.ordered? pick).toList.map (x.clock.now, ·)) := by
  cases e with
  | setOpen route =>
    refine ⟨{ x with openRoute := route }, rfl, rfl, ?_⟩
    show Relays pick delay _ (orders ++ [])
    rw [List.append_nil]
    exact ⟨h.isOpen, h.stamp_lt, h.due_le, h.relayed⟩
  | send e =>
    have hbring : x.bring? (.send e) =
        some { x with outbox.sent := x.outbox.sent ++ [(x.clock.now, e)] } := by
      simp [Executor.bring?, Outbox.send?, h.isOpen]
    refine ⟨_, hbring, rfl, ?_⟩
    show Relays pick delay _ (orders ++ [])
    rw [List.append_nil]
    refine ⟨h.isOpen, h.stamp_lt, h.due_le, ?_⟩
    have hnone : picked pick [(x.clock.now, e)] = [] :=
      picked_eq_nil (List.forall_mem_singleton.mpr he)
    rw [← h.relayed, picked_append, picked_append, picked_append, hnone, List.append_nil]
    rfl
  | sendLater d e => exact ⟨_, rfl, rfl, h.sendLater he⟩

/-- What some effects put on their way comes last of its kind, in their order. -/
theorem Relays.bringAll (h : x.Relays pick delay orders) {effects : List Effect}
    (he : ∀ e ∈ effects, e.Delays pick delay) :
    (x.bringAll effects).1.Relays pick delay
      (orders ++ (Effect.ordered pick effects).map (x.clock.now, ·)) := by
  induction effects generalizing x orders with
  | nil =>
    show x.Relays pick delay (orders ++ [])
    rwa [List.append_nil]
  | cons e effects ih =>
    obtain ⟨hhead, hrest⟩ := List.forall_mem_cons.mp he
    obtain ⟨y, hbring, hnow, hy⟩ := h.bring? hhead
    have hall := ih hy hrest
    have hordered : Effect.ordered pick (e :: effects) =
        (e.ordered? pick).toList ++ Effect.ordered pick effects := by
      rw [Effect.ordered, List.filterMap_cons]
      cases e.ordered? pick <;> rfl
    rw [hnow, List.append_assoc, ← List.map_append, ← hordered] at hall
    rw [Executor.bringAll, hbring]
    exact hall

/-- Time passes: what is delivered first of a kind was put on its way first. -/
theorem Relays.deliver (h : x.Relays pick delay orders) (p : Scheduled Event → Bool) (time : Nat) :
    { x with outbox := x.outbox.deliver p, clock := x.clock.advance time }.Relays pick delay
      orders := by
  have hrest : ∀ s ∈ (x.outbox.deliver p).waiting.entries, s ∈ x.outbox.waiting.entries :=
    fun s hs => (List.dropWhile_sublist _).subset hs
  refine ⟨h.isOpen, fun s hs => h.stamp_lt s (hrest s hs), ?_, ?_⟩
  · intro s hs
    refine (h.due_le s (hrest s hs)).imp_right fun hdue => hdue.trans ?_
    exact Nat.add_le_add_right (Nat.le_max_left ..) delay
  · rw [← h.relayed, ← Outbox.sent_append_awaited_deliver h.isOpen p]

/-- Stamps may be taken from the clock, as long as the time stays. -/
theorem Relays.stamped (h : x.Relays pick delay orders) (houtbox : y.outbox = x.outbox)
    (hnow : y.clock.now = x.clock.now) (hstamp : x.clock.stamp ≤ y.clock.stamp) :
    y.Relays pick delay orders where
  isOpen := by
    rw [houtbox]
    exact h.isOpen
  stamp_lt := by
    intro s hs
    rw [houtbox] at hs
    exact (h.stamp_lt s hs).trans_le hstamp
  due_le := by
    intro s hs
    rw [houtbox] at hs
    rw [hnow]
    exact h.due_le s hs
  relayed := by
    rw [houtbox]
    exact h.relayed

/-- While nothing is late, the host has received by a time exactly what was put on its way a delay
before. -/
theorem Relays.picked_sent (h : x.Relays pick delay orders) {time : Nat}
    (hlate : ∀ s ∈ x.outbox.waiting.entries, time < s.due) :
    (picked pick x.outbox.sent).filter (fun p => p.1 ≤ time) =
      (orders.filter fun p => p.1 + delay ≤ time).map fun p => (p.1 + delay, p.2) := by
  have hawaited : (picked pick x.outbox.awaited).filter (fun p => p.1 ≤ time) = [] := by
    rw [List.filter_eq_nil_iff, Outbox.picked_awaited]
    intro p hp
    obtain ⟨s, hs, hpick⟩ := List.mem_filterMap.mp hp
    obtain ⟨value, -, rfl⟩ := Option.map_eq_some_iff.mp hpick
    have hdue := hlate s hs
    simpa using hdue
  calc (picked pick x.outbox.sent).filter (fun p => p.1 ≤ time)
      = (picked pick (x.outbox.sent ++ x.outbox.awaited)).filter (fun p => p.1 ≤ time) := by
        rw [picked_append, List.filter_append, hawaited, List.append_nil]
    _ = (orders.map fun p => (p.1 + delay, p.2)).filter (fun p => p.1 ≤ time) := by
        rw [h.relayed]
    _ = (orders.filter fun p => p.1 + delay ≤ time).map fun p => (p.1 + delay, p.2) := by
        rw [List.filter_map]
        rfl

end Executor

end NavigationBar
