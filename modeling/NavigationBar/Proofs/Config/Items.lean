import NavigationBar.Config.Item
import NavigationBar.Proofs.Config.Actions
import NavigationBar.Proofs.Decode.Slots

/-!
# Items and their written forms

Badges, items and routes are read again from what is written of them.
-/

namespace NavigationBar

open Decode

/-- The members of some slots, written as the present ones among optional fields. -/
theorem members_eq_presentFields {α : Type} (slots : List (Slot α)) (x : α) :
    Slot.members slots x = presentFields (slots.map fun s => (s.key, s.write (s.get x))) := by
  rw [Slot.members, presentFields, List.filterMap_map]
  rfl

namespace Badge

/-- The slots of badges. -/
def slots : List (Slot Badge) := [
  .optional "template" text .string Badge.template fun b template => { b with template },
  .raw "color" Badge.color fun b color => { b with color },
  .raw "show" Badge.show? fun b show? => { b with show? },
  .raw "count" Badge.count fun b count => { b with count },
  .raw "text_color" Badge.textColor fun b textColor => { b with textColor },
  .raw "textColor" Badge.olderTextColor
    fun b olderTextColor => { b with olderTextColor }]

theorem describes : Describes slots record where
  fields_eq := rfl
  keys_nodup := by decide
  get_keep := by simp [slots, Slot.optional, Slot.raw]
  get_keep_other := by simp [slots, Slot.optional, Slot.raw]
  ext := by
    rintro ⟨⟩ ⟨⟩ h
    simpa [slots, Slot.optional, Slot.raw] using h
  initial := by simp [slots, Slot.optional, Slot.raw, record, Slot.yields_none]

theorem toJson_eq (b : Badge) : b.toJson = .object (Slot.members slots b) := by
  rw [members_eq_presentFields]
  rfl

theorem slots_roundTrip : ∀ s ∈ slots, s.RoundTrips record.initial := by
  have htext := @Slot.optional_roundTrips Badge _ _ _ text_roundTrips nofun
  simp [slots, htext, Slot.raw_roundTrips, record]

/-- Badges are read again from what is written of them. -/
theorem roundTrips : RoundTrips decode toJson := by
  rw [funext toJson_eq]
  exact describes.roundTrips slots_roundTrip

end Badge

namespace Item

/-- The slots of items. -/
def slots : List (Slot Item) := [
  .optional "url" text .string Item.url fun i url => { i with url },
  .optional "tap_action" Action.decode Action.toJson Item.tapAction
    fun i tapAction => { i with tapAction },
  .optional "hold_action" Action.decode Action.toJson Item.holdAction
    fun i holdAction => { i with holdAction },
  .optional "double_tap_action" Action.decode Action.toJson Item.doubleTapAction
    fun i doubleTapAction => { i with doubleTapAction },
  .raw "icon" Item.icon fun i icon => { i with icon },
  .raw "icon_color" Item.iconColor fun i iconColor => { i with iconColor },
  .raw "icon_selected" Item.iconSelected
    fun i iconSelected => { i with iconSelected },
  .raw "image" Item.image fun i image => { i with image },
  .raw "image_selected" Item.imageSelected
    fun i imageSelected => { i with imageSelected },
  .raw "label" Item.label fun i label => { i with label },
  .optional "badge" Badge.decode Badge.toJson Item.badge fun i badge => { i with badge },
  .raw "hidden" Item.hidden fun i hidden => { i with hidden },
  .raw "selected" Item.selected fun i selected => { i with selected },
  .raw "selected_color" Item.selectedColor
    fun i selectedColor => { i with selectedColor }]

theorem describes : Describes slots record where
  fields_eq := rfl
  keys_nodup := by decide
  get_keep := by simp [slots, Slot.optional, Slot.raw]
  get_keep_other := by simp [slots, Slot.optional, Slot.raw]
  ext := by
    rintro ⟨⟩ ⟨⟩ h
    simpa [slots, Slot.optional, Slot.raw] using h
  initial := by simp [slots, Slot.optional, Slot.raw, record, Slot.yields_none]

theorem toFields_eq (i : Item) : i.toFields = Slot.members slots i := by
  rw [members_eq_presentFields]
  rfl

theorem slots_roundTrip : ∀ s ∈ slots, s.RoundTrips record.initial := by
  have htext := @Slot.optional_roundTrips Item _ _ _ text_roundTrips nofun
  have haction := @Slot.optional_roundTrips Item _ _ _ Action.roundTrips nofun
  have hbadge := @Slot.optional_roundTrips Item _ _ _ Badge.roundTrips nofun
  simp [slots, htext, haction, hbadge, Slot.raw_roundTrips, record]

/-- Items are read again from what is written of them. -/
theorem roundTrips : RoundTrips decode toJson := by
  have htoJson : toJson = fun i => .object (Slot.members slots i) :=
    funext fun i => congrArg Json.object (toFields_eq i)
  rw [htoJson]
  exact describes.roundTrips slots_roundTrip

end Item

namespace Route

/-- The slots of routes besides those of their items. -/
def slots : List (Slot Route) := [
  .raw "popup" Route.popup fun r popup => { r with popup },
  .optional "submenu" (list Item.decode) (fun items => .array (items.map Item.toJson))
    Route.submenu fun r submenu => { r with submenu }]

theorem toJson_eq (r : Route) :
    r.toJson = .object (Slot.members Item.slots r.item ++ Slot.members slots r) := by
  rw [toJson, Item.toFields_eq, members_eq_presentFields slots]
  rfl

theorem slots_roundTrip : ∀ s ∈ slots, s.RoundTrips {} := by
  have hitems := @Slot.optional_roundTrips Route _ _ _ Item.roundTrips.list nofun
  simp [slots, hitems, Slot.raw_roundTrips]

/-- Takes on one member of a route: its popup is decoded, and what is an item's is set aside. -/
def take (o : Origin) (acc : Option Json × Option (List Item) × Fields) (p : String × Json) :
    Decoded (Option Json × Option (List Item) × Fields) :=
  if p.1 = "popup" then return ((← nullable value o p.2), acc.2.1, acc.2.2)
  else if p.1 = "submenu" then return (acc.1, (← nullable (list Item.decode) o p.2), acc.2.2)
  else return (acc.1, acc.2.1, acc.2.2 ++ [p])

theorem decode_object (o : Origin) (ms : Fields) :
    decode o (.object ms) = (do
      let (popup, submenu, rest) ← ms.foldlM (take o) (none, none, [])
      let item ← Item.record.ofMembers .copy rest
      return { item, popup, submenu }) := rfl

/-- Whether members under a key are set aside for the item. -/
def isItemKey (k : String) : Bool :=
  k != "popup" && k != "submenu"

/-- What has been taken on so far was decoded from values. -/
structure Taken (acc : Option Json × Option (List Item) × Fields) : Prop where
  popup : Yields (nullable value) acc.1
  submenu : Yields (nullable (list Item.decode)) acc.2.1
  rest : ∀ p ∈ acc.2.2, p.2.WellFormed

theorem Taken.take {o : Origin} {acc acc' : Option Json × Option (List Item) × Fields}
    {p : String × Json} (h : Taken acc) (hp : p.2.WellFormed) (htake : take o acc p = .ok acc') :
    Taken acc' := by
  unfold Route.take at htake
  split at htake
  · cases hread : nullable value o p.2 with
    | error e => rw [hread] at htake; cases htake
    | ok popup =>
      rw [hread] at htake
      cases htake
      exact ⟨⟨o, p.2, hp, hread⟩, h.submenu, h.rest⟩
  · split at htake
    · cases hread : nullable (list Item.decode) o p.2 with
      | error e => rw [hread] at htake; cases htake
      | ok submenu =>
        rw [hread] at htake
        cases htake
        exact ⟨h.popup, ⟨o, p.2, hp, hread⟩, h.rest⟩
    · cases htake
      refine ⟨h.popup, h.submenu, fun q hq => ?_⟩
      rcases List.mem_append.mp hq with hq | hq
      · exact h.rest q hq
      · obtain rfl := List.mem_singleton.mp hq
        exact hp

theorem Taken.foldlM {o : Origin} {ms : Fields}
    {acc acc' : Option Json × Option (List Item) × Fields} (h : Taken acc)
    (hms : ∀ p ∈ ms, p.2.WellFormed) (hfold : ms.foldlM (Route.take o) acc = .ok acc') :
    Taken acc' := by
  induction ms generalizing acc with
  | nil =>
    cases hfold
    exact h
  | cons p ms ih =>
    rw [List.foldlM_cons] at hfold
    cases htake : Route.take o acc p with
    | error e => rw [htake] at hfold; cases hfold
    | ok acc₁ =>
      rw [htake] at hfold
      exact ih (h.take (hms p List.mem_cons_self) htake)
        (fun q hq => hms q (List.mem_cons_of_mem _ hq)) hfold

/-- The item of a decoded route and its popup hold what their decoders yield. -/
theorem yielded {r : Route} (h : Yields decode r) :
    Describes.Yielded Item.slots r.item ∧ Describes.Yielded slots r := by
  obtain ⟨o, v, hv, hread⟩ := h
  cases hv with
  | object ms ascending each =>
    rw [decode_object] at hread
    have hstart : Taken (none, none, []) :=
      ⟨Slot.yields_none value, Slot.yields_none _, by simp⟩
    cases hfold : ms.foldlM (take o) (none, none, []) with
    | error e => simp only [bind, Except.bind, hfold] at hread; cases hread
    | ok acc =>
      obtain ⟨popup, submenu, rest⟩ := acc
      have htaken := hstart.foldlM each hfold
      simp only [bind, Except.bind, hfold] at hread
      cases hitem : Item.record.ofMembers .copy rest with
      | error e => rw [hitem] at hread; cases hread
      | ok item =>
        rw [hitem] at hread
        cases hread
        refine ⟨Item.describes.yielded_ofMembers htaken.rest hitem, ?_⟩
        exact List.forall_mem_cons.mpr ⟨htaken.popup,
          List.forall_mem_cons.mpr ⟨htaken.submenu, List.forall_mem_nil _⟩⟩
  | null | bool | int | float | string | array => cases hread

/-- Members with distinct keys give a route its popup, where they name it, and the rest is set
aside. -/
theorem foldlM_take {o : Origin} {ms : Fields} (hms : ms.Distinct) (r : Route)
    (hpopup : ∀ v, ms.lookup "popup" = some v → nullable value o v = .ok r.popup)
    (hsubmenu : ∀ v, ms.lookup "submenu" = some v →
      nullable (list Item.decode) o v = .ok r.submenu)
    (acc : Option Json × Option (List Item) × Fields) :
    ms.foldlM (take o) acc = .ok
      (if (ms.lookup "popup").isSome then r.popup else acc.1,
        if (ms.lookup "submenu").isSome then r.submenu else acc.2.1,
        acc.2.2 ++ ms.filter fun p => isItemKey p.1) := by
  induction ms generalizing acc with
  | nil => simp [pure, Except.pure]
  | cons p ms ih =>
    obtain ⟨k, v⟩ := p
    obtain ⟨hnotin, hrest⟩ := List.nodup_cons.mp hms
    have hnone : ms.lookup k = none := Fields.lookup_eq_none hnotin
    rw [Fields.lookup_cons_ite] at hpopup hsubmenu
    rw [List.foldlM_cons, Fields.lookup_cons_ite, Fields.lookup_cons_ite]
    by_cases hk : k = "popup"
    · subst hk
      have hstep : take o acc ("popup", v) = .ok (r.popup, acc.2.1, acc.2.2) := by
        rw [take, if_pos rfl, hpopup v (if_pos rfl)]
        rfl
      rw [hstep]
      refine (ih hrest (fun w hw => ?_) ?_ _).trans ?_
      · rw [hnone] at hw
        cases hw
      · simpa using hsubmenu
      · simp [hnone, isItemKey]
    · by_cases hk' : k = "submenu"
      · subst hk'
        have hstep : take o acc ("submenu", v) = .ok (acc.1, r.submenu, acc.2.2) := by
          rw [take, if_neg (by simp), if_pos rfl, hsubmenu v (if_pos rfl)]
          rfl
        rw [hstep]
        refine (ih hrest ?_ (fun w hw => ?_) _).trans ?_
        · simpa using hpopup
        · rw [hnone] at hw
          cases hw
        · simp [hnone, isItemKey]
      · have hstep : take o acc (k, v) = .ok (acc.1, acc.2.1, acc.2.2 ++ [(k, v)]) := by
          rw [take, if_neg hk, if_neg hk']
          rfl
        rw [hstep]
        rw [if_neg (Ne.symm hk)] at hpopup ⊢
        rw [if_neg (Ne.symm hk')] at hsubmenu ⊢
        refine (ih hrest hpopup hsubmenu _).trans ?_
        simp [isItemKey, hk, hk']

/-- The members that are written of a route. -/
def members (r : Route) : Fields :=
  Slot.members Item.slots r.item ++ Slot.members slots r

theorem distinct_members (r : Route) : r.members.Distinct := by
  have hkeys : (Item.slots.map Slot.key ++ slots.map Slot.key).Nodup := by decide
  rw [Fields.Distinct, members, List.map_append]
  exact hkeys.sublist ((Slot.keys_members_sublist Item.slots r.item).append
    (Slot.keys_members_sublist slots r))

theorem lookup_members_item (r : Route) {s : Slot Item} (hs : s ∈ Item.slots) :
    r.members.lookup s.key = (Slot.members Item.slots r.item).lookup s.key := by
  have hkeys : ∀ s ∈ Item.slots, s.key ∉ slots.map Slot.key := by decide
  have hnone : (Slot.members slots r).lookup s.key = none :=
    Fields.lookup_eq_none fun hmem =>
      hkeys s hs ((Slot.keys_members_sublist slots r).subset hmem)
  rw [members, List.lookup_append, hnone, Option.or_none]

theorem lookup_members_own (r : Route) {s : Slot Route} (hs : s ∈ slots) :
    r.members.lookup s.key = s.write (s.get r) := by
  have hkeys : ∀ s ∈ slots, s.key ∉ Item.slots.map Slot.key := by decide
  have hnone : (Slot.members Item.slots r.item).lookup s.key = none :=
    Fields.lookup_eq_none fun hmem =>
      hkeys s hs ((Slot.keys_members_sublist Item.slots r.item).subset hmem)
  rw [members, List.lookup_append, hnone, Option.none_or, Slot.lookup_members (by decide) hs]

/-- What is written of a decoded route restores its item, once the rest is set aside. -/
theorem ofMembers_sorted_members {r : Route} (h : Describes.Yielded Item.slots r.item) :
    Item.record.ofMembers .copy ((Fields.ofList (Json.sortedFields r.members)).filter
      fun p => isItemKey p.1) = .ok r.item := by
  have hkeys : ∀ s ∈ Item.slots, isItemKey s.key = true := by decide
  have hdistinct := (Fields.ofList_ascending (Json.sortedFields r.members)).distinct
  refine Item.describes.ofMembers_eq_ok (hdistinct.sublist (List.filter_sublist.map _)) ?_
  intro s hs
  refine (Item.slots_roundTrip s hs).restores (h s hs) .copy ?_
  rw [Fields.lookup_filter_key (hkeys s hs), Json.lookup_sorted r.distinct_members,
    r.lookup_members_item hs, Item.describes.lookup_members hs]

theorem restores_own {r : Route} (h : Describes.Yielded slots r) (o : Origin) :
    ∀ s ∈ slots, s.Restores o (Fields.ofList (Json.sortedFields r.members)) {} r := by
  intro s hs
  refine (slots_roundTrip s hs).restores (h s hs) o ?_
  rw [Json.lookup_sorted r.distinct_members, r.lookup_members_own hs]

/-- Routes are read again from what is written of them. -/
theorem roundTrips : RoundTrips decode toJson := by
  constructor
  · intro r hr
    obtain ⟨hitem, hown⟩ := yielded hr
    rw [toJson_eq]
    refine .object _ fun p hp => ?_
    rcases List.mem_append.mp hp with hp | hp
    · exact Slot.RoundTrips.fits Item.slots_roundTrip hitem p hp
    · exact Slot.RoundTrips.fits slots_roundTrip hown p hp
  · intro r hr o
    obtain ⟨hitem, hown⟩ := yielded hr
    have hdistinct := (Fields.ofList_ascending (Json.sortedFields r.members)).distinct
    obtain ⟨hpopup, hrest⟩ := List.forall_mem_cons.mp (restores_own hown o)
    obtain ⟨hsubmenu, -⟩ := List.forall_mem_cons.mp hrest
    rw [toJson_eq]
    change decode o (.object (Fields.ofList (Json.sortedFields r.members))) = .ok r
    rw [decode_object, foldlM_take hdistinct r (fun v => hpopup.decode) (fun v => hsubmenu.decode)]
    simp only [bind, Except.bind, List.nil_append, ofMembers_sorted_members hitem]
    exact congrArg Except.ok (congrArg₂ (Route.mk r.item) hpopup.get hsubmenu.get)

end Route

end NavigationBar
