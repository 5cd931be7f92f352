import NavigationBar.Display.Item
import NavigationBar.Proofs.Config.Items
import NavigationBar.Proofs.Config.Printed
import NavigationBar.Proofs.Decode.Steps

/-!
# Two ways to write the entries of a popup

A route lists the entries of its popup under one key, or under an older one. The list under the
older key is decoded with the configuration, which is refused if an entry is. The other list is kept
as it was written, as a template could stand in its place, and is decoded whenever the popup is
drawn; it has no entries then if one of them is refused.
-/

namespace NavigationBar

open Decode

/-! ## Routes -/

namespace Route

variable {ms : Fields} {o : Origin}

/-- Members of the item are set aside in their order. -/
theorem foldlM_take_item (h : ∀ p ∈ ms, isItemKey p.1 = true)
    (acc : Option Json × Option (List Item) × Fields) :
    ms.foldlM (take o) acc = .ok (acc.1, acc.2.1, acc.2.2 ++ ms) := by
  induction ms generalizing acc with
  | nil => simp [pure, Except.pure]
  | cons p ms ih =>
    obtain ⟨hp, hms⟩ := List.forall_mem_cons.mp h
    obtain ⟨hpopup, hsubmenu⟩ : p.1 ≠ "popup" ∧ p.1 ≠ "submenu" := by
      simpa [isItemKey] using hp
    have hstep : take o acc p = .ok (acc.1, acc.2.1, acc.2.2 ++ [p]) := by
      rw [take, if_neg hpopup, if_neg hsubmenu]
      rfl
    rw [List.foldlM_cons, hstep]
    refine (ih hms _).trans ?_
    rw [List.append_assoc, List.singleton_append]

theorem isItemKey_of_mem (hpopup : ms.lookup "popup" = none)
    (hsubmenu : ms.lookup "submenu" = none) : ∀ p ∈ ms, isItemKey p.1 = true := by
  intro p hp
  have h₁ : "popup" ≠ p.1 := bne_iff_ne.mp (List.lookup_eq_none_iff.mp hpopup p hp)
  have h₂ : "submenu" ≠ p.1 := bne_iff_ne.mp (List.lookup_eq_none_iff.mp hsubmenu p hp)
  simp [isItemKey, h₁.symm, h₂.symm]

/-- One member more than those of the item is decoded after those before it are set aside. -/
theorem exists_decode_set (hms : ∀ p ∈ ms, isItemKey p.1 = true) {key : String}
    (hkey : ms.lookup key = none) (o : Origin) (v : Json) :
    ∃ before after : Fields, ms = before ++ after ∧
      decode o (.object (ms.set key v)) = (do
        let (popup, submenu, rest) ← take o (none, none, before) (key, v)
        let item ← Item.record.ofMembers .copy (rest ++ after)
        return { item, popup, submenu }) := by
  obtain ⟨before, after, rfl, hset⟩ := Fields.exists_set_eq hkey
  obtain ⟨hbefore, hafter⟩ := List.forall_mem_append.mp hms
  refine ⟨before, after, rfl, ?_⟩
  rw [decode_object, hset, List.foldlM_append, foldlM_take_item hbefore]
  change ((take o (none, none, before) (key, v) >>= fun acc => after.foldlM (take o) acc) >>= _) = _
  cases take o (none, none, before) (key, v) with
  | error e => rfl
  | ok acc =>
    change (after.foldlM (take o) acc >>= _) = _
    rw [foldlM_take_item hafter]
    rfl

theorem decode_set_popup (hpopup : ms.lookup "popup" = none) (hsubmenu : ms.lookup "submenu" = none)
    (o : Origin) (vs : List Json) :
    decode o (.object (ms.set "popup" (.array vs))) =
      (Item.record.ofMembers .copy ms).map fun item => { item, popup := some (.array vs) } := by
  obtain ⟨before, after, rfl, hdecode⟩ :=
    exists_decode_set (isItemKey_of_mem hpopup hsubmenu) hpopup o (.array vs)
  rw [hdecode]
  change (Item.record.ofMembers .copy (before ++ after) >>= _) = _
  cases Item.record.ofMembers .copy (before ++ after) <;> rfl

theorem decode_set_submenu (hpopup : ms.lookup "popup" = none)
    (hsubmenu : ms.lookup "submenu" = none) (o : Origin) (vs : List Json) :
    decode o (.object (ms.set "submenu" (.array vs))) = (do
      let items ← vs.mapM (Item.decode o)
      let item ← Item.record.ofMembers .copy ms
      return { item, submenu := some items }) := by
  obtain ⟨before, after, rfl, hdecode⟩ :=
    exists_decode_set (isItemKey_of_mem hpopup hsubmenu) hsubmenu o (.array vs)
  rw [hdecode]
  change ((((vs.mapM (Item.decode o)).map some) >>= _) >>= _) = _
  cases vs.mapM (Item.decode o) <;> rfl

/-- The entries of a popup are the items that its list is decoded as; none, if one is refused. -/
theorem entries_popup (item : Item) (vs : List Json) (submenu : Option (List Item))
    (t : Template.Context) :
    ({ item, popup := some (.array vs), submenu } : Route).entries t =
      (vs.mapM (Item.decode .document)).toOption.getD [] :=
  rfl

end Route

theorem firstFault?_eq_none {rs : List Route} (i : Nat) :
    firstFault? i rs = none ↔ ∀ r ∈ rs, r.fault? = none := by
  induction rs generalizing i with
  | nil => simp [firstFault?]
  | cons r rs ih =>
    rw [firstFault?, List.forall_mem_cons, ← ih (i + 1)]
    cases r.fault? with
    | none => simp
    | some fault => simp

/-! ## Configurations -/

namespace Config

/-- A configuration document without its routes. -/
inductive Frame where
  /-- The other members of an object. -/
  | members (others : Fields) (h : others.lookup "routes" = none)
  /-- The sections after the routes, in a list. -/
  | sections (others : List Json)

/-- The document with some routes in it. -/
def Frame.document : Frame → List Json → Json
  | members others _, routes => .object (others.set "routes" (.array routes))
  | sections others, routes => .array (.array routes :: others)

/-- The fields of a configuration besides its routes do not depend on them. -/
theorem ignores_routes (routes : List Route) : ∀ f ∈ record.fields, f.key ≠ "routes" →
    f.Ignores fun c => { c with routes } := by
  intro f hf hkey
  simp only [record, List.mem_cons, List.not_mem_nil, or_false] at hf
  rcases hf with rfl | rfl | rfl | rfl | rfl | rfl
  · exact absurd rfl hkey
  all_goals exact Field.ignores_of fun x b => rfl

theorem missing?_eq_none {ms : Fields} (h : ms.has "routes" = true) :
    record.missing? ms = none := by
  simp [Record.missing?, record, Field.needed, Field.of, h]

theorem decode_members (before after : Fields) (vs : List Json) :
    decode .document (.object (before ++ ("routes", .array vs) :: after)) = (do
      let c ← record.putAll .document {} before
      let routes ← vs.mapM (Route.decode .document)
      record.putAll .document { c with routes } after) := by
  have hmissing : record.missing? (before ++ ("routes", .array vs) :: after) = none :=
    missing?_eq_none (by simp [Fields.has, List.lookup_append])
  change record.ofMembers .document _ = _
  rw [Record.ofMembers, hmissing, Record.putAll, List.foldlM_append]
  change ((record.putAll .document {} before >>= _) >>= _) = _
  cases record.putAll .document {} before with
  | error e => rfl
  | ok c =>
    change (((vs.mapM (Route.decode .document)).map fun routes => { c with routes }) >>= _) >>= _ =
      vs.mapM (Route.decode .document) >>= _
    cases vs.mapM (Route.decode .document) with
    | error e => rfl
    | ok routes =>
      change (record.putAll .document { c with routes } after >>= _) =
        record.putAll .document { c with routes } after
      cases record.putAll .document { c with routes } after <;> rfl

theorem decode_sections (vs others : List Json) :
    decode .document (.array (.array vs :: others)) = (do
      let routes ← vs.mapM (Route.decode .document)
      let (c, rest) ← Record.putItems .document "struct NavbarConfig with 6 elements" 1 { routes }
        record.fields.tail others
      if rest.isEmpty then return c
      else .error (.invalidLength (others.length + 1) "fewer elements in array")) := by
  change record.ofItems _ .document _ = _
  rw [Record.ofItems]
  change (((vs.mapM (Route.decode .document)).map fun routes => ({ routes } : Config)) >>= _) >>= _
    = _
  cases vs.mapM (Route.decode .document) with
  | error e => rfl
  | ok routes => rfl

variable {f : Frame} {vs vs' : List Json} {c : Config}

/-- The routes of a document are decoded apart from what is around them. -/
theorem decode_document (h : decode .document (f.document vs) = .ok c) :
    (∃ routes, vs.mapM (Route.decode .document) = .ok routes) ∧
    ∀ vs' routes, vs'.mapM (Route.decode .document) = .ok routes →
      decode .document (f.document vs') = .ok { c with routes } := by
  cases f with
  | members others hothers =>
    obtain ⟨before, after, rfl, hset⟩ := Fields.exists_set_eq hothers
    rw [Frame.document, hset, decode_members] at h
    obtain ⟨b, hbefore, h⟩ := bind_eq_ok.mp h
    obtain ⟨routes, hroutes, hafter⟩ := bind_eq_ok.mp h
    refine ⟨⟨routes, hroutes⟩, fun vs' routes' hroutes' => ?_⟩
    have hignores : ∀ f ∈ record.fields, f.key ∈ after.map Prod.fst →
        f.Ignores fun c => { c with routes := routes' } := by
      intro f hf hkey
      refine ignores_routes routes' f hf ?_
      rintro hroutes
      obtain ⟨p, hp, hpkey⟩ := List.mem_map.mp hkey
      have hne := List.lookup_eq_none_iff.mp hothers p (List.mem_append_right _ hp)
      rw [hpkey, hroutes] at hne
      cases hne
    have hchange := Record.putAll_change hignores .document { b with routes }
    rw [Frame.document, hset, decode_members, hbefore, hroutes']
    exact hchange.trans (congrArg (Except.map _) hafter)
  | sections others =>
    rw [Frame.document, decode_sections] at h
    obtain ⟨routes, hroutes, h⟩ := bind_eq_ok.mp h
    obtain ⟨⟨c', rest⟩, hitems, hrest⟩ := bind_eq_ok.mp h
    refine ⟨⟨routes, hroutes⟩, fun vs' routes' hroutes' => ?_⟩
    have hignores : ∀ f ∈ record.fields.tail, f.Ignores fun c => { c with routes := routes' } := by
      intro f hf
      refine ignores_routes routes' f (List.mem_of_mem_tail hf) ?_
      simp only [record, List.tail_cons, List.mem_cons, List.not_mem_nil, or_false] at hf
      rcases hf with rfl | rfl | rfl | rfl | rfl <;> simp [Field.of]
    have hchange := Record.putItems_change hignores .document
      "struct NavbarConfig with 6 elements" 1 { routes } others
    rw [hitems] at hchange
    rw [Frame.document, decode_sections, hroutes']
    refine bind_eq_ok.mpr ⟨routes', rfl, bind_eq_ok.mpr ⟨_, hchange, ?_⟩⟩
    dsimp only at hrest ⊢
    cases hempty : rest.isEmpty with
    | true =>
      rw [hempty, if_pos rfl] at hrest
      rw [if_pos rfl, Except.ok.inj hrest]
      rfl
    | false =>
      rw [hempty] at hrest
      cases hrest

/-- One route of a valid document may take the place of another. -/
theorem ofJson_swap {before after : List Json} {d : Json}
    (h : ofJson (f.document (before ++ d :: after)) = .ok c) :
    ∃ r, c.routes[before.length]? = some r ∧ Route.decode .document d = .ok r ∧ r.fault? = none ∧
      ∀ d' r', Route.decode .document d' = .ok r' → r'.fault? = none →
        ofJson (f.document (before ++ d' :: after)) =
          .ok { c with routes := c.routes.set before.length r' } := by
  obtain ⟨hdecode, hfaults⟩ := ofJson_eq_ok.mp h
  obtain ⟨⟨routes, hroutes⟩, hswap⟩ := decode_document hdecode
  have hsame : c.routes = routes :=
    congrArg Config.routes (Except.ok.inj (hdecode.symm.trans (hswap _ routes hroutes)))
  obtain ⟨rs₁, r, rs₂, h₁, hr, h₂, rfl⟩ := mapM_append_cons_eq_ok.mp hroutes
  have hlength : before.length = rs₁.length := (mapM_eq_ok_iff.mp h₁).length_eq
  rw [hsame, firstFault?_eq_none, List.forall_mem_append, List.forall_mem_cons] at hfaults
  obtain ⟨hfaults₁, hfault, hfaults₂⟩ := hfaults
  rw [hsame, hlength]
  refine ⟨r, by simp, hr, hfault, fun d' r' hr' hfault' => ?_⟩
  rw [List.set_append_right _ _ le_rfl, Nat.sub_self, List.set_cons_zero]
  refine ofJson_eq_ok.mpr ⟨?_, (firstFault?_eq_none 0).mpr ?_⟩
  · exact hswap _ _ (mapM_append_cons_eq_ok.mpr ⟨rs₁, r', rs₂, h₁, hr', h₂, rfl⟩)
  · exact List.forall_mem_append.mpr ⟨hfaults₁, List.forall_mem_cons.mpr ⟨hfault', hfaults₂⟩⟩

/-- A configuration document with a route that has no popup yet. -/
structure Gap where
  /-- The document around its routes. -/
  frame : Frame
  /-- The routes before it. -/
  before : List Json
  /-- The routes after it. -/
  after : List Json
  /-- The members of the route. -/
  members : Fields
  no_popup : members.lookup "popup" = none
  no_submenu : members.lookup "submenu" = none

namespace Gap

/-- The document with a list of entries under a key of the route. -/
def fill (g : Gap) (key : String) (entries : List Json) : Json :=
  g.frame.document (g.before ++ .object (g.members.set key (.array entries)) :: g.after)

/-- The route of a configuration that stands in the gap. -/
def route? (g : Gap) (c : Config) : Option Route :=
  c.routes[g.before.length]?

variable {g : Gap} {entries : List Json}

theorem of_fill_popup (h : ofJson (g.fill "popup" entries) = .ok c) :
    ∃ item, g.route? c = some { item, popup := some (.array entries) } ∧
      ∀ items, entries.mapM (Item.decode .document) = .ok items → ∃ c',
        ofJson (g.fill "submenu" entries) = .ok c' ∧
        g.route? c' = some { item, submenu := some items } := by
  obtain ⟨r, hr, hdecode, hfault, hswap⟩ := ofJson_swap h
  rw [Route.decode_set_popup g.no_popup g.no_submenu] at hdecode
  obtain ⟨item, hitem, rfl⟩ := map_eq_ok.mp hdecode
  refine ⟨item, hr, fun items hitems => ⟨_, hswap _ { item, submenu := some items } ?_ ?_, ?_⟩⟩
  · rw [Route.decode_set_submenu g.no_popup g.no_submenu, hitems, hitem]
    rfl
  · exact hfault
  · exact List.getElem?_set_self (List.getElem?_eq_some_iff.mp hr).1

theorem of_fill_submenu (h : ofJson (g.fill "submenu" entries) = .ok c) :
    ∃ item items, entries.mapM (Item.decode .document) = .ok items ∧
      g.route? c = some { item, submenu := some items } ∧ ∃ c',
        ofJson (g.fill "popup" entries) = .ok c' := by
  obtain ⟨r, hr, hdecode, hfault, hswap⟩ := ofJson_swap h
  rw [Route.decode_set_submenu g.no_popup g.no_submenu] at hdecode
  obtain ⟨items, hitems, hdecode⟩ := bind_eq_ok.mp hdecode
  obtain ⟨item, hitem, heq⟩ := bind_eq_ok.mp hdecode
  obtain rfl := Except.ok.inj heq
  refine ⟨item, items, hitems, hr, _, hswap _ { item, popup := some (.array entries) } ?_ hfault⟩
  rw [Route.decode_set_popup g.no_popup g.no_submenu, hitem]
  rfl

/-- A configuration with a list of entries under the older key is valid if the one with the list
under the other key is and all of the entries are items. Then both lists have the same entries; if
one of them is no item, the list that was accepted has none. -/
theorem submenu_accepted_iff (g : Gap) (entries : List Json) :
    ((∃ c, ofJson (g.fill "submenu" entries) = .ok c) ↔
      (∃ c, ofJson (g.fill "popup" entries) = .ok c) ∧
        ∀ v ∈ entries, ∃ i, Item.decode .document v = .ok i) ∧
    ∀ c, ofJson (g.fill "popup" entries) = .ok c → ∃ r, g.route? c = some r ∧
      (∀ c', ofJson (g.fill "submenu" entries) = .ok c' → ∃ r', g.route? c' = some r' ∧
        ∀ t, r.entries t = r'.entries t ∧
          List.Forall₂ (fun v i => Item.decode .document v = .ok i) entries (r.entries t)) ∧
      ((∀ c', ofJson (g.fill "submenu" entries) ≠ .ok c') → ∀ t, r.entries t = []) := by
  refine ⟨⟨?_, ?_⟩, ?_⟩
  · rintro ⟨c, hc⟩
    obtain ⟨_, items, hitems, -, hpopup⟩ := of_fill_submenu hc
    exact ⟨hpopup, exists_mapM_eq_ok_iff.mp ⟨items, hitems⟩⟩
  · rintro ⟨⟨c, hc⟩, hentries⟩
    obtain ⟨items, hitems⟩ := exists_mapM_eq_ok_iff.mpr hentries
    obtain ⟨_, -, hsubmenu⟩ := of_fill_popup hc
    obtain ⟨c', hc', -⟩ := hsubmenu items hitems
    exact ⟨c', hc'⟩
  · intro c hc
    obtain ⟨item, hr, hsubmenu⟩ := of_fill_popup hc
    refine ⟨_, hr, fun c' hc' => ?_, fun hrefused t => ?_⟩
    · obtain ⟨item', items, hitems, hr', -⟩ := of_fill_submenu hc'
      refine ⟨_, hr', fun t => ?_⟩
      have hdrawn : ({ item, popup := some (.array entries) } : Route).entries t = items := by
        rw [Route.entries_popup, hitems]
        rfl
      rw [hdrawn]
      exact ⟨rfl, mapM_eq_ok_iff.mp hitems⟩
    · rw [Route.entries_popup]
      cases hitems : entries.mapM (Item.decode .document) with
      | error e => rfl
      | ok items =>
        obtain ⟨c', hc', -⟩ := hsubmenu items hitems
        exact absurd hc' (hrefused c')

/-- A bar with one route, which has an icon. -/
def home : Gap where
  frame := .members [] rfl
  before := []
  after := []
  members := [("icon", .string "mdi:home")]
  no_popup := rfl
  no_submenu := rfl

theorem submenu_accepted_iff_home :
    (∃ c c' r r', ofJson (home.fill "popup" [.object [("url", .string "/x")], .object []]) = .ok c ∧
      ofJson (home.fill "submenu" [.object [("url", .string "/x")], .object []]) = .ok c' ∧
      home.route? c = some r ∧ home.route? c' = some r' ∧
      ∀ t, r.entries t = r'.entries t ∧ (r.entries t).length = 2) ∧
    ∃ c r, ofJson (home.fill "popup" [.object [("url", .string "/x")], .int 5]) = .ok c ∧
      home.route? c = some r ∧ ∀ t, r.entries t = [] := by
  constructor
  · obtain ⟨-, hsame⟩ :=
      submenu_accepted_iff home [.object [("url", .string "/x")], .object []]
    obtain ⟨r, hr, hentries, -⟩ := hsame _ rfl
    obtain ⟨r', hr', hentries⟩ := hentries _ rfl
    exact ⟨_, _, r, r', rfl, rfl, hr, hr', fun t => ⟨(hentries t).1, (hentries t).2.length_eq.symm⟩⟩
  · obtain ⟨-, hsame⟩ := submenu_accepted_iff home [.object [("url", .string "/x")], .int 5]
    obtain ⟨r, hr, -, hnone⟩ := hsame _ rfl
    exact ⟨_, r, rfl, hr, hnone fun c' hc' => by cases hc'⟩

/-- A number in place of an entry is found in one of the lists only. -/
theorem number_refused_in_submenu :
    (∃ c, ofJson (home.fill "popup" [.int 5]) = .ok c) ∧
      ¬ ∃ c, ofJson (home.fill "submenu" [.int 5]) = .ok c := by
  refine ⟨⟨_, rfl⟩, ?_⟩
  rintro ⟨c, hc⟩
  cases hc

end Gap

end Config

end NavigationBar
