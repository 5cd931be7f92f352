import NavigationBar.Proofs.Bar.SameItems
import NavigationBar.Proofs.Json.Ordering
import NavigationBar.Proofs.Time.Deadlines

/-!
# One action from its beginning to its end

What the host is told when an action is carried out, in order: the ripple stops, the popup of the
owner closes unless the action opens it, the bar vibrates, and then comes the one thing that the
action does. All of it is in the plan of the action, whose parts are looked at one by one here.
-/

namespace NavigationBar

namespace Effect

/-- The event that an effect puts on its way, with its delay. -/
def later? : Effect → Option (Nat × Event)
  | sendLater delay e => some (delay, e)
  | _ => none

/-- The events that some effects put on their way. -/
def later (effects : List Effect) : List (Nat × Event) :=
  effects.filterMap later?

theorem later_append {f g : List Effect} : later (f ++ g) = later f ++ later g :=
  List.filterMap_append

end Effect

/-! ## What actions do -/

/-- The event by which an action of the bar's own is done, where one event is all it takes. -/
def OwnAction.event? : OwnAction → Option Event
  | navigateBack => some .historyBack
  | toggleMenu => some .toggleMenu
  | showNotifications => some .showNotifications
  | quickbar mode => some (.keyDown (quickbarKey mode))
  | openEditMode => some .forceEditMode
  | logout => some .logout
  | openPopup => none
  | runScript _ => none

namespace Plan

/-- Whether anything is done: a tap leads to a page even if no action is configured, and only a
route whose popup has entries opens one. -/
def IsDone (o : Occasion) : Option Action → Prop
  | none => o.gesture = .tap ∧ o.owner.url?.isSome = true
  | some (.own .openPopup) => ∃ index url entries, o.owner = .route index url entries ∧ 0 < entries
  | some _ => True

/-- Whether an action leads to another page. -/
def isNavigation : Option Action → Bool
  | none => true
  | some (.own .navigateBack) => true
  | some _ => false

/-- The one thing that an action does, while the popup of `current` may be open: what the host is
told at once, and what later. -/
inductive Does (current : Option Nat) (o : Occasion) :
    Option Action → List Event → List (Nat × Event) → Prop
  /-- Nothing is done. -/
  | nothing {a : Option Action} (h : ¬ IsDone o a) : Does current o a [] []
  /-- A tap without an action goes to the page of its owner. -/
  | page {path : String} (hurl : o.owner.url? = some path) (hg : o.gesture = .tap) :
    Does current o none [.navigate path] []
  /-- An action of the bar's own that comes to one event. -/
  | event {own : OwnAction} {e : Event} (h : own.event? = some e) :
    Does current o (some (.own own)) [e] []
  /-- A script tells nothing by itself. -/
  | script (code : String) : Does current o (some (.own (.runScript code))) [] []
  /-- An action of the host is passed on a little later, under the gesture and with its entity. -/
  | host {fields members : Fields}
    (haction : members.get? o.gesture.actionKey = some (.object fields))
    (hentity : members.get? "entity" = (Action.host fields).entity?.map Json.string)
    (hkeys : ∀ k ∈ members.map Prod.fst, k = o.gesture.actionKey ∨ k = "entity") :
    Does current o (some (.host fields)) []
      [(10, .action o.gesture (.object members) (Action.host fields).entity?)]
  /-- A popup opens, in place of the one of another route, which is taken off the page later. -/
  | popup {index : Nat} {url : Option String} {entries : Nat} {closed : Option Nat}
    (howner : o.owner = .route index url entries) (hentries : 0 < entries)
    (hclosed : ∀ r, closed = some r ↔ current = some r ∧ r ≠ index) :
    Does current o (some (.own .openPopup))
      (closed.toList.map .closePopup ++ [.openPopup index o.target])
      (closed.toList.map fun r => (200, .popupRemoved r))

/-! ## Plans, part by part -/

section Parts

open Effect

variable (h : Option Haptics) (current : Option Nat) (c : Template.Context) (o : Occasion)

theorem sent_vibration (g : Gesture) (isNavigation : Bool) :
    sent (vibration h g isNavigation) =
      if Haptics.applies h g isNavigation then [.haptic] else [] := by
  unfold vibration
  split <;> rfl

theorem later_vibration (g : Gesture) (isNavigation : Bool) :
    later (vibration h g isNavigation) = [] := by
  unfold vibration
  split <;> rfl

/-- Whether some effects are a vibration, if one is due, and the one thing that an action does. -/
def Carries (a : Option Action) (f : List Effect) : Prop :=
  ∃ (vibrates : Bool) (now : List Event) (delayed : List (Nat × Event)),
    (vibrates = true ↔ IsDone o a ∧ Haptics.applies h o.gesture (isNavigation a) = true) ∧
    Does current o a now delayed ∧
    sent f = (if vibrates then [.haptic] else []) ++ now ∧ later f = delayed

variable {h current o} {a : Option Action} {f : List Effect} {now : List Event}
  {delayed : List (Nat × Event)}

theorem carries_nothing (hdone : ¬ IsDone o a) : Carries h current o a [] := by
  refine ⟨false, [], [], ?_, .nothing hdone, rfl, rfl⟩
  constructor
  · exact nofun
  · rintro ⟨hdone', -⟩
    exact absurd hdone' hdone

theorem carries_done (hdone : IsDone o a) (hdoes : Does current o a now delayed)
    (hsent : sent f = now) (hlater : later f = delayed) :
    Carries h current o a (vibration h o.gesture (isNavigation a) ++ f) := by
  refine ⟨Haptics.applies h o.gesture (isNavigation a), now, delayed, ?_, hdoes, ?_, ?_⟩
  · exact ⟨fun happlies => ⟨hdone, happlies⟩, fun ⟨_, happlies⟩ => happlies⟩
  · rw [sent_append, sent_vibration, hsent]
  · rw [later_append, later_vibration, hlater, List.nil_append]

theorem carries_ofNothing : Carries h current o none (ofNothing h o).effects := by
  unfold ofNothing
  dsimp only
  split
  · rename_i path hurl hg
    have hdone : IsDone o none := ⟨hg, by rw [hurl]; rfl⟩
    rw [← hg]
    exact carries_done hdone (.page hurl hg) rfl rfl
  · rename_i hnone
    refine carries_nothing ?_
    rintro ⟨hg, hurl⟩
    obtain ⟨path, hpath⟩ := Option.isSome_iff_exists.mp hurl
    exact hnone path hpath hg

theorem sent_opening_popup (current : Option Nat) (route : Nat) (target : Target) :
    ∃ closed : Option Nat, (∀ r, closed = some r ↔ current = some r ∧ r ≠ route) ∧
      sent (Popup.opening current route target) =
        closed.toList.map .closePopup ++ [.openPopup route target] ∧
      later (Popup.opening current route target) =
        closed.toList.map fun r => (200, .popupRemoved r) := by
  cases current with
  | none => exact ⟨none, by simp, rfl, rfl⟩
  | some other =>
    by_cases hother : other = route
    · have hopening : Popup.opening (some other) route target =
          [.setOpen (some route), .send (.openPopup route target)] := by
        simp [Popup.opening, hother]
      rw [hopening]
      refine ⟨none, ?_, rfl, rfl⟩
      simp +contextual [hother, eq_comm]
    · have hopening : Popup.opening (some other) route target =
          .setOpen (some route) :: Popup.dismiss other ++ [.send (.openPopup route target)] := by
        simp [Popup.opening, hother]
      rw [hopening]
      refine ⟨some other, ?_, rfl, rfl⟩
      intro r
      constructor
      · rintro ⟨⟩
        exact ⟨rfl, hother⟩
      · exact And.left

theorem openAfter_popup (current : Option Nat) (route : Nat) (target : Target) :
    openAfter current (Popup.opening current route target) = some route := by
  cases current with
  | none => rfl
  | some other =>
    by_cases hother : other = route <;> simp [Popup.opening, hother] <;> rfl

theorem carries_openPopup :
    Carries h current o (some (.own .openPopup)) (ofOwn h current c o .openPopup).effects := by
  cases howner : o.owner with
  | route index url entries =>
    simp only [ofOwn, howner]
    split
    · rename_i hentries
      refine carries_nothing ?_
      rintro ⟨index', url', entries', howner', hpos⟩
      rw [howner, Owner.route.injEq] at howner'
      omega
    · rename_i hentries
      have hpos : 0 < entries := Nat.pos_of_ne_zero hentries
      obtain ⟨closed, hclosed, hsent, hlater⟩ := sent_opening_popup current index o.target
      exact carries_done ⟨index, url, entries, howner, hpos⟩ (.popup howner hpos hclosed) hsent
        hlater
  | entry route index url | widget =>
    simp only [ofOwn, howner]
    refine carries_nothing ?_
    rintro ⟨index', url', entries', howner', -⟩
    rw [howner] at howner'
    cases howner'

theorem carries_ofOwn (own : OwnAction) :
    Carries h current o (some (.own own)) (ofOwn h current c o own).effects := by
  cases own with
  | openPopup => exact carries_openPopup c
  | runScript code =>
    rw [← List.append_nil (ofOwn _ _ _ _ _).effects]
    refine carries_done ?_ (.script code) rfl rfl
    trivial
  | navigateBack | toggleMenu | showNotifications | quickbar mode | openEditMode | logout =>
    refine carries_done ?_ (.event rfl) rfl rfl
    trivial

/-- The members of what the host is told about an action of its own. -/
theorem exists_members (g : Gesture) (fields : Fields) (entity : Option String) :
    ∃ members : Fields, hostConfig g fields entity = .object members ∧
      members.get? g.actionKey = some (.object fields) ∧
      members.get? "entity" = entity.map Json.string ∧
      ∀ k ∈ members.map Prod.fst, k = g.actionKey ∨ k = "entity" := by
  have hne : g.actionKey ≠ "entity" := by cases g <;> decide
  cases entity with
  | none =>
    refine ⟨_, rfl, ?_, ?_, ?_⟩
    · simp [Fields.get?]
    · simp [Fields.get?, List.lookup_cons, beq_eq_false_iff_ne.mpr hne.symm]
    · simp
  | some id =>
    refine ⟨_, rfl, ?_, ?_, ?_⟩
    · rw [Fields.get?, Fields.lookup_set, if_neg hne]
      simp
    · rw [Fields.get?, Fields.lookup_set, if_pos rfl]
      rfl
    · intro k hk
      obtain ⟨p, hp, rfl⟩ := List.mem_map.mp hk
      rcases Fields.mem_set hp with rfl | hp
      · exact .inr rfl
      · exact .inl (congrArg Prod.fst (List.mem_singleton.mp hp))

theorem carries_ofHost (fields : Fields) :
    Carries h current o (some (.host fields)) (ofHost h o (.host fields)).effects := by
  obtain ⟨members, hmembers, haction, hentity, hkeys⟩ :=
    exists_members o.gesture fields (Action.host fields).entity?
  refine carries_done ?_ (.host haction hentity hkeys) rfl ?_
  · trivial
  · rw [← hmembers]
    rfl

end Parts

/-! ## Whole plans -/

section Whole

open Effect

variable (h : Option Haptics) (current : Option Nat) (c : Template.Context) (a : Option Action)
  (o : Occasion)

/-- What comes before an action: the ripple stops, and a popup may close. -/
theorem exists_closed :
    ∃ closed : Option Nat,
      (∀ r, closed = some r ↔
        a ≠ some (.own .openPopup) ∧ o.owner.popupRoute? = some r ∧ current = some r) ∧
      sent (opening current a o) = .resetRipple o.target :: closed.toList.map .closePopup ∧
      later (opening current a o) = closed.toList.map (fun r => (200, .popupRemoved r)) ∧
      openAfter current (opening current a o) = if closed.isSome then none else current := by
  have hopens : a.any Action.isOpenPopup = true ↔ a = some (.own .openPopup) := by
    cases a with
    | none => simp
    | some action =>
      cases action with
      | host fields => simp [Action.isOpenPopup]
      | own own => cases own <;> simp [Action.isOpenPopup]
  unfold opening
  by_cases ha : a = some (.own .openPopup)
  · rw [if_pos (hopens.mpr ha)]
    exact ⟨none, by simp [ha], rfl, rfl, rfl⟩
  · rw [if_neg (mt hopens.mp ha)]
    cases howner : o.owner.popupRoute? with
    | none => exact ⟨none, by simp, rfl, rfl, rfl⟩
    | some r =>
      by_cases hcurrent : current = some r
      · refine ⟨some r, by simp [ha, hcurrent], ?_, ?_, ?_⟩
        all_goals
          simp only [Option.map_some, Option.getD_some, Popup.close, hcurrent, if_true]
          rfl
      · refine ⟨none, ?_, ?_, ?_, ?_⟩
        · intro r'
          simp only [reduceCtorEq, Option.some.injEq, false_iff, not_and]
          rintro - rfl
          exact hcurrent
        all_goals
          simp only [Option.map_some, Option.getD_some, Popup.close, hcurrent, if_false]
          rfl

theorem carries_of :
    ∃ f, (of h current c a o).effects = opening current a o ++ f ∧ Carries h current o a f := by
  match a with
  | none => exact ⟨_, rfl, carries_ofNothing⟩
  | some (.own own) => exact ⟨_, rfl, carries_ofOwn c own⟩
  | some (.host fields) => exact ⟨_, rfl, carries_ofHost fields⟩

/-- An action that does not open a popup changes which one is open by what comes before it alone. -/
theorem openAfter_of (ha : a ≠ some (.own .openPopup)) :
    openAfter current (of h current c a o).effects = openAfter current (opening current a o) := by
  have hbody : ∀ a f, (∀ x ∈ f, x.IsApart) →
      openAfter current (opening current a o ++ f) = openAfter current (opening current a o) := by
    intro a f hf
    rw [openAfter_append, openAfter_apart hf]
  match a with
  | none => exact hbody _ _ (apart_ofNothing h o)
  | some (.host fields) => exact hbody _ _ (apart_ofHost h o _)
  | some (.own own) =>
    refine hbody _ _ (apart_ofOwn h current c o ?_)
    rintro rfl
    exact ha rfl

theorem openAfter_openPopup :
    openAfter current (of h current c (some (.own .openPopup)) o).effects =
      match o.owner with
      | .route index _ entries => if entries = 0 then current else some index
      | _ => current := by
  have hopening : openAfter current (opening current (some (.own .openPopup)) o) = current := rfl
  have heffects : (of h current c (some (.own .openPopup)) o).effects =
      opening current (some (.own .openPopup)) o ++ (ofOwn h current c o .openPopup).effects := rfl
  rw [heffects, openAfter_append, hopening]
  cases howner : o.owner with
  | route index url entries =>
    simp only [ofOwn, howner]
    split
    · rfl
    · rw [openAfter_append, openAfter_apart (apart_vibration h _ _)]
      exact openAfter_popup current index o.target
  | entry route index url | widget =>
    simp only [ofOwn, howner]
    rfl

/-- How an action fails. -/
theorem outcome_eq_error_iff {f : ActionFault} :
    (of h current c a o).outcome = .error f ↔
      (∃ index url, a = some (.own .openPopup) ∧ o.owner = .route index url 0 ∧
        f = .noEntries index) ∨
      ∃ code t, a = some (.own (.runScript code)) ∧
        Template.evaluate c (.string code) .statement = .error t ∧ f = .template t := by
  match a with
  | none => simp [of, ofNothing]
  | some (.host fields) => simp [of, ofHost]
  | some (.own .openPopup) =>
    cases howner : o.owner with
    | route index url entries =>
      simp only [of, ofOwn, howner]
      by_cases hentries : entries = 0
      · simp [hentries, eq_comm]
      · simp [hentries]
    | entry route index url => simp [of, ofOwn, howner]
    | widget => simp [of, ofOwn, howner]
  | some (.own (.runScript code)) =>
    simp only [of, ofOwn]
    cases hran : Template.evaluate c (.string code) .statement with
    | ok v => simp [hran]
    | error t => simp [hran, eq_comm]
  | some (.own .navigateBack) | some (.own .toggleMenu) | some (.own .showNotifications)
  | some (.own (.quickbar mode)) | some (.own .openEditMode) | some (.own .logout) =>
    simp [of, ofOwn]

end Whole

end Plan

/-! ## Executors -/

/-- What is on its way, and when it arrives. -/
def Outbox.awaited (b : Outbox) : List (Nat × Event) :=
  b.waiting.entries.map fun s => (s.due, s.value)

namespace Executor

variable (x : Executor)

/-- When events arrive that are sent now, each with a delay. -/
def arrivals (delayed : List (Nat × Event)) : List (Nat × Event) :=
  delayed.map fun p => (x.clock.now + p.1, p.2)

variable {x}

/-- Effects put on their way just what they send later. -/
theorem awaited_bringAll (h : x.outbox.isOpen = true) (effects : List Effect) :
    (x.bringAll effects).1.outbox.awaited.Perm
      (x.outbox.awaited ++ x.arrivals (Effect.later effects)) := by
  induction effects generalizing x with
  | nil =>
    rw [Effect.later, List.filterMap_nil, arrivals, List.map_nil, List.append_nil]
    exact .refl _
  | cons f effects ih =>
    cases f with
    | setOpen route => exact ih (x := { x with openRoute := route }) h
    | send e =>
      have hbring : x.bring? (.send e) =
          some { x with outbox.sent := x.outbox.sent ++ [(x.clock.now, e)] } := by
        simp [bring?, Outbox.send?, h]
      rw [bringAll, hbring]
      exact ih (x := { x with outbox.sent := x.outbox.sent ++ [(x.clock.now, e)] }) h
    | sendLater delay e =>
      have hadded : (x.outbox.sendLater x.clock delay e).awaited.Perm
          ((x.clock.now + delay, e) :: x.outbox.awaited) :=
        (Scheduled.perm_insert _ _).map _
      refine (ih (x := { x with outbox := x.outbox.sendLater x.clock delay e,
                                clock := x.clock.tick }) h).trans ?_
      refine (hadded.append_right _).trans ?_
      exact List.perm_middle.symm

/-- A popup without entries is not opened; nothing else is done for it either. -/
theorem execute_noEntries (h : x.outbox.isOpen = true) {c : Template.Context} {o : Occasion}
    {index : Nat} {url : Option String} (howner : o.owner = .route index url 0) :
    (x.execute c (some (.own .openPopup)) o).1 =
      { x with outbox.sent := x.outbox.sent ++ [(x.clock.now, .resetRipple o.target)] } := by
  have heffects : (Plan.of x.haptics x.openRoute c (some (.own .openPopup)) o).effects =
      [.send (.resetRipple o.target)] := by
    simp [Plan.of, Plan.ofOwn, Plan.opening, howner, Action.isOpenPopup]
  show (x.bringAll (Plan.of x.haptics x.openRoute c (some (.own .openPopup)) o).effects).1 = _
  rw [heffects]
  simp [bringAll, bring?, Outbox.send?, h]

/-- What carrying out an action comes to while the host listens, in order. The ripple stops, once.
The popup of the owner closes if it is open, unless the action opens it. The bar vibrates at most
once, if something is done and the gesture asks for it. Then comes the one thing that the action
does. A popup that was closed is taken off the page later. An action fails for lack of entries, in
which case nothing but the ripple was touched, or because its own script fails. -/
theorem execute_in_order (x : Executor) (c : Template.Context) (a : Option Action) (o : Occasion)
    (h : x.outbox.isOpen = true) :
    let y := (x.execute c a o).1
    (∃ (closed : Option Nat) (vibrates : Bool) (now : List Event) (delayed : List (Nat × Event)),
      y.outbox.sent = x.outbox.sent ++
        (.resetRipple o.target :: (closed.toList.map .closePopup ++
          ((if vibrates then [.haptic] else []) ++ now))).map (x.clock.now, ·) ∧
      y.outbox.awaited.Perm (x.outbox.awaited ++ x.arrivals
        (closed.toList.map (fun r => (200, Event.popupRemoved r)) ++ delayed)) ∧
      (∀ r, closed = some r ↔
        a ≠ some (.own .openPopup) ∧ o.owner.popupRoute? = some r ∧ x.openRoute = some r) ∧
      (vibrates = true ↔ Plan.IsDone o a ∧
        Haptics.applies x.haptics o.gesture (Plan.isNavigation a) = true) ∧
      Plan.Does x.openRoute o a now delayed) ∧
    (a ≠ some (.own .openPopup) →
      ∀ r, y.openRoute = some r ↔ x.openRoute = some r ∧ o.owner.popupRoute? ≠ some r) ∧
    (a = some (.own .openPopup) → y.openRoute =
      match o.owner with
      | .route index _ entries => if entries = 0 then x.openRoute else some index
      | _ => x.openRoute) ∧
    (∀ f, (x.execute c a o).2 = .error f ↔
      (∃ index url, a = some (.own .openPopup) ∧ o.owner = .route index url 0 ∧
        f = .noEntries index) ∨
      ∃ code t, a = some (.own (.runScript code)) ∧
        Template.evaluate c (.string code) .statement = .error t ∧ f = .template t) ∧
    (∀ index, (x.execute c a o).2 = .error (.noEntries index) →
      y = { x with outbox.sent :=
        x.outbox.sent ++ [(x.clock.now, .resetRipple o.target)] }) := by
  intro y
  obtain ⟨hbrought, -⟩ := brought_bringAll h (Plan.of x.haptics x.openRoute c a o).effects
  have hlater := awaited_bringAll h (Plan.of x.haptics x.openRoute c a o).effects
  obtain ⟨closed, hclosed, hsentBefore, hlaterBefore, hopenBefore⟩ :=
    Plan.exists_closed x.openRoute a o
  obtain ⟨f, heffects, vibrates, now, delayed, hvibrates, hdoes, hsent, hlater'⟩ :=
    Plan.carries_of x.haptics x.openRoute c a o
  refine ⟨⟨closed, vibrates, now, delayed, ?_, ?_, hclosed, hvibrates, hdoes⟩, ?_, ?_, ?_, ?_⟩
  · refine hbrought.sent_eq.trans ?_
    rw [heffects, Effect.sent_append, hsentBefore, hsent, List.cons_append]
  · refine hlater.trans (.of_eq ?_)
    rw [heffects, Effect.later_append, hlaterBefore, hlater']
  · intro ha r
    have hopen : y.openRoute = if closed.isSome then none else x.openRoute := by
      rw [← hopenBefore, ← Plan.openAfter_of x.haptics _ c _ _ ha]
      exact hbrought.openRoute_eq
    rw [hopen]
    cases hclosed' : closed with
    | none =>
      have hkept : ¬ (o.owner.popupRoute? = some r ∧ x.openRoute = some r) := by
        intro hboth
        have hsome := (hclosed r).mpr ⟨ha, hboth⟩
        rw [hclosed'] at hsome
        cases hsome
      simp only [Option.isSome_none, Bool.false_eq_true, if_false]
      tauto
    | some r' =>
      obtain ⟨-, howner, hcurrent⟩ := (hclosed r').mp hclosed'
      simp [howner, hcurrent]
  · rintro rfl
    rw [← Plan.openAfter_openPopup x.haptics x.openRoute c o]
    exact hbrought.openRoute_eq
  · intro f
    rw [execute_outcome x c a o h]
    exact Plan.outcome_eq_error_iff _ _ _ _ _
  · intro index hfails
    rw [execute_outcome x c a o h, Plan.outcome_eq_error_iff] at hfails
    rcases hfails with ⟨index', url, rfl, howner, -⟩ | ⟨code, t, -, -, hfault⟩
    · exact execute_noEntries h howner
    · cases hfault

/-- An executor of a bar that always vibrates, with the popup of a route open. -/
def showing (r : Nat) : Executor where
  openRoute := some r
  haptics := some (.uniform true)

/-- One popup gives way to another. -/
theorem execute_in_order_popup :
    (showing 2).outbox.isOpen = true ∧
    ((showing 2).execute default (some (.own .openPopup))
        ⟨default, .route 0 none 1, .tap⟩).1.outbox.sent =
      [.resetRipple default, .haptic, .closePopup 2, .openPopup 0 default].map (0, ·) := by
  obtain ⟨⟨closed, vibrates, now, _, hsent, -, hclosed, hvibrates, hdoes⟩, -⟩ :=
    execute_in_order (showing 2) default (some (.own .openPopup))
      ⟨default, .route 0 none 1, .tap⟩ rfl
  have hdone : Plan.IsDone ⟨default, .route 0 none 1, .tap⟩ (some (.own .openPopup)) :=
    ⟨0, none, 1, rfl, Nat.one_pos⟩
  have hnone : closed = none := by
    cases closed with
    | none => rfl
    | some r => exact absurd rfl ((hclosed r).mp rfl).1
  have hnow : now = [.closePopup 2, .openPopup 0 default] := by
    cases hdoes with
    | nothing hidle => exact absurd hdone hidle
    | event hevent => cases hevent
    | popup howner _ hother =>
      cases howner
      rw [(hother 2).mpr ⟨rfl, by decide⟩]
      rfl
  refine ⟨rfl, hsent.trans ?_⟩
  rw [hnone, hvibrates.mpr ⟨hdone, rfl⟩, hnow]
  rfl

end Executor

end NavigationBar
