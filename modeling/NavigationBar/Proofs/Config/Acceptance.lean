import NavigationBar.Proofs.Config.Items
import NavigationBar.Proofs.Config.Printed

/-!
# Which documents are valid configurations

A document that decodes as a configuration is valid if each route in it, as it is written, has
something to draw and something to do: a value that is not `null` under one of the keys for either.
Otherwise it is refused for the first route that lacks something.
-/

namespace NavigationBar

open Decode

/-! ## Routes as they are written -/

/-- Whether there is a value under a key, and not `null`. -/
def Fields.hasValue (ms : Fields) (key : String) : Bool :=
  (ms.lookup key).any fun v => !v.isNull

namespace Json

/-- Whether a value is an object with a value under one of some keys. -/
def hasValueUnder (keys : List String) : Json → Bool
  | object ms => keys.any (Fields.hasValue ms)
  | _ => false

/-- Whether a route has something to draw. -/
def draws : Json → Bool :=
  hasValueUnder ["icon", "image"]

/-- Whether a route has something to do. -/
def acts : Json → Bool :=
  hasValueUnder ["url", "popup", "submenu", "tap_action", "hold_action", "double_tap_action"]

/-- A route that has both. -/
def Complete (v : Json) : Prop :=
  v.draws = true ∧ v.acts = true

instance (v : Json) : Decidable v.Complete :=
  inferInstanceAs (Decidable (_ ∧ _))

/-- What a route lacks: something to do only if it has something to draw. -/
def Lacks (v : Json) : RouteFault → Prop
  | .nothingToDraw => v.draws = false
  | .nothingToDo => v.draws = true ∧ v.acts = false

theorem Lacks.not_complete {v : Json} {fault : RouteFault} (h : v.Lacks fault) : ¬ v.Complete := by
  rintro ⟨hdraws, hacts⟩
  cases fault with
  | nothingToDraw => exact Bool.noConfusion (h.symm.trans hdraws)
  | nothingToDo => exact Bool.noConfusion (h.2.symm.trans hacts)

end Json

/-! ## What decoding makes of them -/

/-- An optional value that is decoded from the member under a key, if there is one, is there if the
member is and is not `null`. -/
theorem isSome_eq_hasValue {α : Type} {d : Decoder α} {o : Origin} {ms : Fields} {key : String}
    {a : Option α}
    (h : match ms.lookup key with
      | some v => nullable d o v = .ok a
      | none => a = none) : a.isSome = ms.hasValue key := by
  unfold Fields.hasValue
  cases hv : ms.lookup key with
  | none =>
    rw [hv] at h
    rw [h]
    rfl
  | some v =>
    rw [hv] at h
    dsimp only at h
    by_cases hnull : v = .null
    · subst hnull
      rw [← Except.ok.inj h]
      rfl
    · rw [Slot.nullable_of_ne_null hnull] at h
      obtain ⟨b, -, rfl⟩ := map_eq_ok.mp h
      cases v with
      | null => exact absurd rfl hnull
      | _ => rfl

namespace Route

variable {o : Origin} {ms : Fields}

variable {acc acc' : Option Json × Option (List Item) × Fields}

/-- A member of a route is its popup, under one of two keys, or set aside. -/
theorem take_cases {p : String × Json} (h : take o acc p = .ok acc') :
    (p.1 = "popup" ∧ ∃ popup, nullable value o p.2 = .ok popup ∧
      acc' = (popup, acc.2.1, acc.2.2)) ∨
    (p.1 = "submenu" ∧ ∃ submenu, nullable (list Item.decode) o p.2 = .ok submenu ∧
      acc' = (acc.1, submenu, acc.2.2)) ∨
    (isItemKey p.1 = true ∧ acc' = (acc.1, acc.2.1, acc.2.2 ++ [p])) := by
  unfold take at h
  split at h
  · rename_i hpopup
    obtain ⟨popup, hread, heq⟩ := bind_eq_ok.mp h
    exact .inl ⟨hpopup, popup, hread, (Except.ok.inj heq).symm⟩
  · rename_i hpopup
    split at h
    · rename_i hsubmenu
      obtain ⟨submenu, hread, heq⟩ := bind_eq_ok.mp h
      exact .inr (.inl ⟨hsubmenu, submenu, hread, (Except.ok.inj heq).symm⟩)
    · rename_i hsubmenu
      have hitem : isItemKey p.1 = true := by
        simp [isItemKey, hpopup, hsubmenu]
      exact .inr (.inr ⟨hitem, (Except.ok.inj h).symm⟩)

theorem not_isItemKey {k : String} (h : k = "popup" ∨ k = "submenu") : isItemKey k = false := by
  rcases h with rfl | rfl <;> rfl

/-- The members of a route that are set aside are those of its item. -/
theorem rest_of_foldlM_take (h : ms.foldlM (take o) acc = .ok acc') :
    acc'.2.2 = acc.2.2 ++ ms.filter fun p => isItemKey p.1 := by
  induction ms generalizing acc with
  | nil =>
    cases h
    exact (List.append_nil _).symm
  | cons p ms ih =>
    rw [List.foldlM_cons] at h
    obtain ⟨acc₁, hstep, h⟩ := bind_eq_ok.mp h
    rw [ih h, List.filter_cons]
    rcases take_cases hstep with ⟨hkey, _, -, rfl⟩ | ⟨hkey, _, -, rfl⟩ | ⟨hitem, rfl⟩
    · rw [if_neg (Bool.eq_false_iff.mp (not_isItemKey (.inl hkey)))]
    · rw [if_neg (Bool.eq_false_iff.mp (not_isItemKey (.inr hkey)))]
    · rw [if_pos hitem, List.append_assoc]
      rfl

theorem popup_of_foldlM_take (hms : ms.Distinct) (h : ms.foldlM (take o) acc = .ok acc') :
    match ms.lookup "popup" with
    | some v => nullable value o v = .ok acc'.1
    | none => acc'.1 = acc.1 := by
  refine foldlM_reads "popup" (fun acc => acc.1) (nullable value o) ?_ ?_ hms h
  · intro x v y hstep
    rcases take_cases hstep with ⟨-, _, hread, rfl⟩ | ⟨hkey, -⟩ | ⟨hitem, -⟩
    · exact hread
    · exact absurd hkey (by simp)
    · cases hitem
  · intro x p y hp hstep
    rcases take_cases hstep with ⟨hkey, -⟩ | ⟨-, _, -, rfl⟩ | ⟨-, rfl⟩
    · exact absurd hkey hp
    · rfl
    · rfl

theorem submenu_of_foldlM_take (hms : ms.Distinct) (h : ms.foldlM (take o) acc = .ok acc') :
    match ms.lookup "submenu" with
    | some v => nullable (list Item.decode) o v = .ok acc'.2.1
    | none => acc'.2.1 = acc.2.1 := by
  refine foldlM_reads "submenu" (fun acc => acc.2.1) (nullable (list Item.decode) o) ?_ ?_ hms h
  · intro x v y hstep
    rcases take_cases hstep with ⟨hkey, -⟩ | ⟨-, _, hread, rfl⟩ | ⟨hitem, -⟩
    · exact absurd hkey (by simp)
    · exact hread
    · cases hitem
  · intro x p y hp hstep
    rcases take_cases hstep with ⟨-, _, -, rfl⟩ | ⟨hkey, -⟩ | ⟨-, rfl⟩
    · rfl
    · exact absurd hkey hp
    · rfl

/-- A decoded route holds what stands in its members and is not `null`. -/
theorem isSome_of_decode (hms : ms.Distinct) {r : Route} (h : decode o (.object ms) = .ok r) :
    r.popup.isSome = ms.hasValue "popup" ∧ r.submenu.isSome = ms.hasValue "submenu" ∧
      ∃ rest, (∀ k, isItemKey k = true → rest.hasValue k = ms.hasValue k) ∧ rest.Distinct ∧
        Item.record.ofMembers .copy rest = .ok r.item := by
  rw [decode_object] at h
  obtain ⟨⟨popup, submenu, rest⟩, hfold, h⟩ := bind_eq_ok.mp h
  obtain ⟨item, hitem, heq⟩ := bind_eq_ok.mp h
  obtain rfl := Except.ok.inj heq
  have hrest : rest = ms.filter fun p => isItemKey p.1 := by
    simpa using rest_of_foldlM_take hfold
  refine ⟨isSome_eq_hasValue (popup_of_foldlM_take hms hfold),
    isSome_eq_hasValue (submenu_of_foldlM_take hms hfold), rest, fun k hk => ?_, ?_, hitem⟩
  · rw [Fields.hasValue, hrest, Fields.lookup_filter_key hk]
    rfl
  · rw [hrest]
    exact hms.sublist (List.filter_sublist.map _)

end Route

/-- A decoded item holds what stands in its members and is not `null`. -/
theorem Item.isSome_of_ofMembers {o : Origin} {ms : Fields} (hms : ms.Distinct) {i : Item}
    (h : record.ofMembers o ms = .ok i) :
    (i.icon.isSome = ms.hasValue "icon" ∧ i.image.isSome = ms.hasValue "image") ∧
      i.url.isSome = ms.hasValue "url" ∧ i.tapAction.isSome = ms.hasValue "tap_action" ∧
      i.holdAction.isSome = ms.hasValue "hold_action" ∧
      i.doubleTapAction.isSome = ms.hasValue "double_tap_action" := by
  have hreads := describes.reads_putAll hms (Record.ofMembers_eq_ok_iff.mp h).1
  simp only [slots, List.forall_mem_cons] at hreads
  obtain ⟨hurl, htap, hhold, hdouble, hicon, -, -, himage, -⟩ := hreads
  exact ⟨⟨isSome_eq_hasValue hicon, isSome_eq_hasValue himage⟩, isSome_eq_hasValue hurl,
    isSome_eq_hasValue htap, isSome_eq_hasValue hhold, isSome_eq_hasValue hdouble⟩

/-- A decoded route lacks what its document lacks. -/
theorem Route.lacks_of_decode {o : Origin} {v : Json} (hv : v.WellFormed) {r : Route}
    (h : decode o v = .ok r) :
    match r.fault? with
    | some fault => v.Lacks fault
    | none => v.Complete := by
  cases v with
  | object ms =>
    have hms : Fields.Distinct ms := hv.ascending.distinct
    obtain ⟨hpopup, hsubmenu, rest, hsame, hrest, hitem⟩ := isSome_of_decode hms h
    obtain ⟨⟨hicon, himage⟩, hurl, htap, hhold, hdouble⟩ := Item.isSome_of_ofMembers hrest hitem
    rw [hsame _ rfl] at hicon himage hurl htap hhold hdouble
    have hdraws : (r.item.icon.isNone && r.item.image.isNone) = !(Json.object ms).draws := by
      simp [Json.draws, Json.hasValueUnder, ← hicon, ← himage]
    have hacts : (!(r.popup.isSome || r.submenu.isSome) && r.item.url.isNone &&
        !r.item.hasAnyAction) = !(Json.object ms).acts := by
      have hkeys : (Json.object ms).acts = (r.item.url.isSome || (r.popup.isSome ||
          (r.submenu.isSome || (r.item.tapAction.isSome || (r.item.holdAction.isSome ||
            r.item.doubleTapAction.isSome))))) := by
        simp [Json.acts, Json.hasValueUnder, hpopup, hsubmenu, hurl, htap, hhold, hdouble]
      -- The check asks for the popup first, the keys list the page first.
      rw [hkeys, Item.hasAnyAction, ← Option.not_isSome]
      simp only [Bool.not_or]
      ac_rfl
    rw [fault?, hdraws, hacts]
    cases hd : (Json.object ms).draws with
    | false => exact hd
    | true =>
      cases ha : (Json.object ms).acts with
      | false => exact ⟨hd, ha⟩
      | true => exact ⟨hd, ha⟩
  | _ => cases h

/-! ## The first route that lacks something -/

/-- The first of some decoded routes that lacks something is the first whose document does. -/
theorem firstFault?_of_forall₂ {o : Origin} {vs : List Json} {rs : List Route}
    (hvs : ∀ v ∈ vs, v.WellFormed) (h : List.Forall₂ (fun v r => Route.decode o v = .ok r) vs rs)
    (k : Nat) :
    match firstFault? k rs with
    | some (i, fault) => ∃ before v after, vs = before ++ v :: after ∧ i = k + before.length ∧
        (∀ w ∈ before, w.Complete) ∧ v.Lacks fault
    | none => ∀ v ∈ vs, v.Complete := by
  induction h generalizing k with
  | nil => exact List.forall_mem_nil _
  | @cons v r vs rs hr _ ih =>
    obtain ⟨hv, hvs⟩ := List.forall_mem_cons.mp hvs
    have hfault := Route.lacks_of_decode hv hr
    rw [firstFault?]
    cases hfound : r.fault? with
    | some fault =>
      rw [hfound] at hfault
      exact ⟨[], v, vs, rfl, rfl, List.forall_mem_nil _, hfault⟩
    | none =>
      rw [hfound] at hfault
      have hrest := ih hvs (k + 1)
      cases hfirst : firstFault? (k + 1) rs with
      | none =>
        rw [hfirst] at hrest
        exact List.forall_mem_cons.mpr ⟨hfault, hrest⟩
      | some p =>
        obtain ⟨i, fault⟩ := p
        rw [hfirst] at hrest
        obtain ⟨before, w, after, rfl, rfl, hbefore, hw⟩ := hrest
        refine ⟨v :: before, w, after, rfl, ?_, List.forall_mem_cons.mpr ⟨hfault, hbefore⟩, hw⟩
        rw [List.length_cons]
        omega

namespace Config

variable {ms : Fields} {c : Config}

/-- A document that decodes has a list of routes, each of which decodes. -/
theorem exists_routes_of_decode {o : Origin} (hms : ms.Distinct)
    (h : decode o (.object ms) = .ok c) :
    ∃ routes, ms.lookup "routes" = some (.array routes) ∧
      List.Forall₂ (fun v r => Route.decode o v = .ok r) routes c.routes := by
  have hroutes := describes.restores_of_ofMembers hms h _ List.mem_cons_self
  change match ms.lookup "routes" with
    | some v => list Route.decode o v = .ok c.routes
    | none => Presence.required ≠ .required ∧ c.routes = [] at hroutes
  cases hv : ms.lookup "routes" with
  | none =>
    rw [hv] at hroutes
    exact absurd rfl hroutes.1
  | some v =>
    rw [hv] at hroutes
    cases v with
    | array routes => exact ⟨routes, rfl, mapM_eq_ok_iff.mp hroutes⟩
    | _ => cases hroutes

/-- A document that decodes as a configuration is valid if each of its routes, as it is written, has
something to draw and something to do. Otherwise it is refused for the first that lacks something,
by its number, and for what it lacks: something to draw, before something to do. -/
theorem accepted_iff_complete (hms : (Json.object ms).WellFormed)
    (hdecode : decode .document (.object ms) = .ok c) (path : Option String) :
    ∃ routes, ms.lookup "routes" = some (.array routes) ∧
      (ofDocument (.object ms) path = .ok c ↔ ∀ v ∈ routes, v.Complete) ∧
      ((¬ ∀ v ∈ routes, v.Complete) → ∃ before v after fault, routes = before ++ v :: after ∧
        (∀ w ∈ before, w.Complete) ∧ v.Lacks fault ∧
        ofDocument (.object ms) path = .error (.invalid path (.route before.length fault)) ∧
        (LoadError.invalid path (.route before.length fault)).message
          = "route " ++ toString before.length ++ ": " ++ fault.message) := by
  obtain ⟨routes, hlookup, hroutes⟩ := exists_routes_of_decode hms.ascending.distinct hdecode
  have heach : ∀ v ∈ routes, v.WellFormed := by
    cases hms.of_lookup hlookup with
    | array _ each => exact each
  have hfirst := firstFault?_of_forall₂ heach hroutes 0
  refine ⟨routes, hlookup, ?_⟩
  cases hfault : firstFault? 0 c.routes with
  | none =>
    rw [hfault] at hfirst
    have hok := ofDocument_eq_ok (ofJson_eq_ok.mpr ⟨hdecode, hfault⟩) path
    exact ⟨iff_of_true hok hfirst, fun hnot => absurd hfirst hnot⟩
  | some p =>
    obtain ⟨i, fault⟩ := p
    rw [hfault] at hfirst
    obtain ⟨before, v, after, rfl, rfl, hbefore, hv⟩ := hfirst
    have hrefused : ofDocument (.object ms) path
        = .error (.invalid path (.route before.length fault)) := by
      rw [ofDocument, ofJson, hdecode]
      simp [hfault, Except.mapError]
    have hnot : ¬ ∀ w ∈ before ++ v :: after, w.Complete := fun hall =>
      hv.not_complete (hall v (List.mem_append_right _ List.mem_cons_self))
    refine ⟨iff_of_false (fun hok => ?_) hnot, fun _ =>
      ⟨before, v, after, fault, rfl, hbefore, hv, hrefused, rfl⟩⟩
    rw [hrefused] at hok
    cases hok

/-- A document whose second route has a page, but `null` for an icon. -/
def undrawnValue : Json :=
  .object [("routes", .array [
    .object [("icon", .string "mdi:home"), ("url", .string "/")],
    .object [("icon", .null), ("url", .string "/lights")]])]

theorem wellFormed_undrawnValue : undrawnValue.WellFormed := by
  have hkeys : "icon" < "url" := by decide +kernel
  have hroute : ∀ {icon url : Json}, icon.WellFormed → url.WellFormed →
      (Json.object [("icon", icon), ("url", url)]).WellFormed := fun hicon hurl =>
    .object _ (by simpa [Fields.Ascending] using hkeys) (by simp [hicon, hurl])
  have hroutes := Json.WellFormed.array _ (List.forall_mem_cons.mpr
    ⟨hroute (.string "mdi:home") (.string "/"),
      List.forall_mem_singleton.mpr (hroute .null (.string "/lights"))⟩)
  exact .object _ (by simp [Fields.Ascending]) (List.forall_mem_singleton.mpr hroutes)

/-- The document decodes, and is refused for its second route. -/
theorem accepted_iff_complete_undrawn :
    decode .document undrawnValue = .ok
      { routes := [{ item := { icon := some (.string "mdi:home"), url := some "/" } },
          { item := { url := some "/lights" } }] } ∧
    ofDocument undrawnValue none = .error (.invalid none (.route 1 .nothingToDraw)) := by
  refine ⟨rfl, ?_⟩
  obtain ⟨routes, hlookup, -, hrefused⟩ :=
    accepted_iff_complete wellFormed_undrawnValue (c := { routes := [_, _] }) rfl none
  cases hlookup
  obtain ⟨before, v, after, fault, heq, hbefore, hv, hrefusal, -⟩ := hrefused (by decide)
  match before, fault with
  | [], _ =>
    cases heq
    exact absurd (by decide) hv.not_complete
  | [_], .nothingToDraw => exact hrefusal
  | [_], .nothingToDo =>
    cases heq
    exact absurd hv.1 (by decide)
  | _ :: _ :: _, _ => simp at heq

end Config

end NavigationBar
