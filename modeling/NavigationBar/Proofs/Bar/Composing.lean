import NavigationBar.Bar.Plan

/-!
# What plans are composed of

The effects of a plan are put together from a few parts: effects that have nothing to do with
popups, those that close whichever popup is open, and those that open a popup. Each part starts from
the popup that the part before leaves open. What holds of each part and is kept when parts are put
together holds of every plan.
-/

namespace NavigationBar

/-- Whether an event has nothing to do with popups. -/
def Event.IsApart : Event → Prop
  | openPopup _ _ | closePopup _ | popupRemoved _ => False
  | _ => True

namespace Effect

/-- The event that an effect sends at once. -/
def sent? : Effect → Option Event
  | send e => some e
  | _ => none

/-- The events that some effects send at once. -/
def sent (effects : List Effect) : List Event :=
  effects.filterMap sent?

/-- The popup that counts as open after an effect, if that of `current` did before. -/
def opens (current : Option Nat) : Effect → Option Nat
  | setOpen route => route
  | _ => current

/-- The popup that counts as open after some effects. -/
def openAfter (current : Option Nat) (effects : List Effect) : Option Nat :=
  effects.foldl opens current

/-- Whether an effect has nothing to do with popups. -/
def IsApart : Effect → Prop
  | setOpen _ => False
  | send e | sendLater _ e => e.IsApart

/-- Whether an effect sends an event at once that has to do neither with popups nor with an action
of the host's own. -/
def IsPlain : Effect → Prop
  | send (.action _ _ _) => False
  | send e => e.IsApart
  | _ => False

/-- Lists of effects that are put together from those three kinds, begun while the popup of a route
counts as open. -/
inductive Composed : Option Nat → List Effect → Prop
  | apart {current : Option Nat} {f : List Effect} (h : ∀ x ∈ f, x.IsApart) : Composed current f
  | closing (current : Option Nat) : Composed current (Popup.closeAny current)
  | opening (current : Option Nat) (route : Nat) (target : Target) :
    Composed current (Popup.opening current route target)
  | append {current : Option Nat} {f g : List Effect} (hf : Composed current f)
    (hg : Composed (openAfter current f) g) : Composed current (f ++ g)

variable {current : Option Nat} {f g : List Effect} {e : Event}

theorem mem_sent : e ∈ sent f ↔ .send e ∈ f := by
  rw [sent, List.mem_filterMap]
  constructor
  · rintro ⟨x, hx, hxe⟩
    cases x with
    | send e' =>
      obtain rfl := Option.some.inj hxe
      exact hx
    | setOpen route => cases hxe
    | sendLater delay e' => cases hxe
  · intro he
    exact ⟨_, he, rfl⟩

theorem sent_append : sent (f ++ g) = sent f ++ sent g :=
  List.filterMap_append

theorem openAfter_append : openAfter current (f ++ g) = openAfter (openAfter current f) g :=
  List.foldl_append

theorem openAfter_apart (h : ∀ x ∈ f, x.IsApart) : openAfter current f = current := by
  induction f with
  | nil => rfl
  | cons x f ih =>
    rw [List.forall_mem_cons] at h
    have hx : x.opens current = current := by
      cases x with
      | setOpen route => exact h.1.elim
      | send e => rfl
      | sendLater delay e => rfl
    rw [openAfter, List.foldl_cons, hx]
    exact ih h.2

theorem IsPlain.isApart {x : Effect} (h : x.IsPlain) : x.IsApart := by
  cases x with
  | send e =>
    cases e with
    | action g config entity => exact h.elim
    | _ => exact h
  | setOpen route => exact h.elim
  | sendLater delay e => exact h.elim

theorem Composed.nothing : Composed current [] :=
  .apart (by simp)

theorem Composed.apart_append (hf : ∀ x ∈ f, x.IsApart) (hg : Composed current g) :
    Composed current (f ++ g) :=
  .append (.apart hf) ((openAfter_apart hf).symm ▸ hg)

theorem composed_close (current : Option Nat) (route : Nat) :
    Composed current (Popup.close current route) := by
  unfold Popup.close
  split
  · exact .closing current
  · exact .nothing

end Effect

namespace Plan

open Effect

variable (h : Option Haptics) (current : Option Nat) (c : Template.Context) (o : Occasion)

theorem plain_vibration (g : Gesture) (isNavigation : Bool) :
    ∀ x ∈ vibration h g isNavigation, x.IsPlain := by
  unfold vibration
  split
  · simp [IsPlain, Event.IsApart]
  · simp

theorem plain_vibration_append (g : Gesture) (isNavigation : Bool) {x : Effect}
    (hx : x.IsPlain) : ∀ y ∈ vibration h g isNavigation ++ [x], y.IsPlain :=
  List.forall_mem_append.2 ⟨plain_vibration h g isNavigation, List.forall_mem_singleton.2 hx⟩

theorem plain_ofNothing : ∀ x ∈ (ofNothing h o).effects, x.IsPlain := by
  unfold ofNothing
  dsimp only
  split
  · exact plain_vibration_append h _ _ trivial
  · simp

theorem plain_ofOwn {own : OwnAction} (hown : own ≠ .openPopup) :
    ∀ x ∈ (ofOwn h current c o own).effects, x.IsPlain := by
  cases own with
  | openPopup => exact absurd rfl hown
  | runScript code => exact plain_vibration h o.gesture false
  | _ => exact plain_vibration_append h _ _ trivial

theorem apart_vibration (g : Gesture) (isNavigation : Bool) :
    ∀ x ∈ vibration h g isNavigation, x.IsApart :=
  fun x hx => (plain_vibration h g isNavigation x hx).isApart

theorem apart_ofNothing : ∀ x ∈ (ofNothing h o).effects, x.IsApart :=
  fun x hx => (plain_ofNothing h o x hx).isApart

theorem apart_ofHost (a : Action) : ∀ x ∈ (ofHost h o a).effects, x.IsApart :=
  List.forall_mem_append.2 ⟨apart_vibration h _ _, List.forall_mem_singleton.2 trivial⟩

theorem apart_ofOwn {own : OwnAction} (hown : own ≠ .openPopup) :
    ∀ x ∈ (ofOwn h current c o own).effects, x.IsApart :=
  fun x hx => (plain_ofOwn h current c o hown x hx).isApart

theorem composed_openPopup : Composed current (ofOwn h current c o .openPopup).effects := by
  cases howner : o.owner with
  | route index url entries =>
    simp only [ofOwn, howner]
    split
    · exact .nothing
    · exact .apart_append (apart_vibration h _ _) (.opening ..)
  | entry route index url | widget =>
    simp only [ofOwn, howner]
    exact .nothing

theorem composed_opening (a : Option Action) : Composed current (opening current a o) := by
  have hripple : ∀ x ∈ [.send (.resetRipple o.target)], Effect.IsApart x := by
    simp [Effect.IsApart, Event.IsApart]
  unfold opening
  split
  · exact .apart hripple
  · refine .apart_append hripple ?_
    cases o.owner.popupRoute? with
    | none => exact .nothing
    | some route => exact composed_close current route

/-- The action that opens a popup is planned for the popup that is open before it. Nothing is closed
before this action, so it meets that popup. -/
theorem composed_of (a : Option Action) : Composed current (of h current c a o).effects := by
  have hopening := composed_opening current o a
  -- What comes before the action may have closed the popup, which only matters to this one action.
  match a with
  | none => exact hopening.append (.apart (apart_ofNothing h o))
  | some (.host fields) => exact hopening.append (.apart (apart_ofHost h o _))
  | some (.own own) =>
    by_cases hown : own = .openPopup
    · subst hown
      exact hopening.append (composed_openPopup h current c o)
    · exact hopening.append (.apart (apart_ofOwn h current c o hown))

end Plan

end NavigationBar
