import NavigationBar.Proofs.Config.Actions
import NavigationBar.Proofs.Decode.Accepting
import NavigationBar.Proofs.Decode.Slots

/-!
# Members that make an action

Which members are read as an action, and as which. The tag decides whether the action is one of the
bar's own; of its other members only those are looked at that the tag asks for. A host action is
read from any members that have a tag of the host's.
-/

namespace NavigationBar

open Decode

namespace QuickbarMode

theorem lookup_eq_some_iff {s : String} {mode : QuickbarMode} :
    List.lookup s [("devices", devices), ("entities", entities), ("commands", commands)] =
      some mode ↔ s = mode.name := by
  constructor
  · intro h
    by_cases hs : s ∈ ["devices", "entities", "commands"]
    · simp only [List.mem_cons, List.not_mem_nil, or_false] at hs
      rcases hs with rfl | rfl | rfl <;> cases h <;> rfl
    · rw [List.lookup_eq_none_iff.mpr (by simpa using hs)] at h
      cases h
  · rintro rfl
    cases mode <;> rfl

/-- A mode is written as its name, or as an object with its name as the only key and `null` below;
in a copy, an empty object can stand for the `null`. -/
theorem decode_eq_ok_iff {o : Origin} {v : Json} {mode : QuickbarMode} :
    decode o v = .ok mode ↔
      v = .string mode.name ∨ v = .object [(mode.name, .null)] ∨
        o = .copy ∧ v = .object [(mode.name, .object [])] := by
  rw [decode, name_eq_ok_iff]
  constructor
  · rintro ⟨s, hs, rfl | ⟨payload, rfl, hpayload⟩⟩
    · rw [lookup_eq_some_iff.mp hs]
      exact Or.inl rfl
    · rw [lookup_eq_some_iff.mp hs]
      rcases nothing_eq_ok_iff.mp hpayload with rfl | ⟨ho, rfl⟩
      · exact Or.inr (Or.inl rfl)
      · exact Or.inr (Or.inr ⟨ho, rfl⟩)
  · intro h
    refine ⟨mode.name, lookup_eq_some_iff.mpr rfl, ?_⟩
    rcases h with rfl | rfl | ⟨rfl, rfl⟩
    · exact Or.inl rfl
    · exact Or.inr ⟨.null, rfl, nothing_eq_ok_iff.mpr (Or.inl rfl)⟩
    · exact Or.inr ⟨.object [], rfl, rfl⟩

end QuickbarMode

namespace OwnAction

variable {ms : Fields}

/-- Whether some members hold what an action has besides its tag. -/
def ReadFrom (ms : Fields) : OwnAction → Prop
  -- A mode is decoded where it stands: among the members that are set aside for the alternative.
  | quickbar mode =>
    match ms.get? "mode" with
    | some v => nullable QuickbarMode.decode .copy v = .ok mode
    | none => mode = none
  | runScript code => ms.get? "code" = some (.string code)
  | _ => True

/-- The keys of the members from which an action is read. -/
def keys : OwnAction → List String
  | quickbar _ => ["action", "mode"]
  | runScript _ => ["action", "code"]
  | _ => ["action"]

theorem action_mem_keys (a : OwnAction) : "action" ∈ a.keys := by
  cases a <;> simp [keys]

theorem readFrom_of_get?_eq {ms' : Fields} {a : OwnAction}
    (h : ∀ k ∈ a.keys, k ≠ "action" → ms'.get? k = ms.get? k) :
    a.ReadFrom ms' ↔ a.ReadFrom ms := by
  cases a with
  | quickbar mode =>
    have hmode := h "mode" (by simp [keys]) (by decide)
    rw [ReadFrom, ReadFrom, hmode]
  | runScript code =>
    have hcode := h "code" (by simp [keys]) (by decide)
    rw [ReadFrom, ReadFrom, hcode]
  | _ => exact Iff.rfl

theorem exists_mode_of_tag {a : OwnAction} (h : a.tag = "quickbar") :
    ∃ mode, a = quickbar mode := by
  cases a with
  | quickbar mode => exact ⟨mode, rfl⟩
  | _ => simp [tag] at h

theorem exists_code_of_tag {a : OwnAction} (h : a.tag = "custom-js-action") :
    ∃ code, a = runScript code := by
  cases a with
  | runScript code => exact ⟨code, rfl⟩
  | _ => simp [tag] at h

/-- Each alternative reads the actions with its tag, from their own members. -/
theorem alternative_eq_ok_iff (hms : ms.Distinct) {alternative : Alternative OwnAction}
    (h : alternative ∈ tagged.alternatives) {a : OwnAction} :
    alternative.ofMembers ms = .ok a ↔ a.tag = alternative.tag ∧ a.ReadFrom ms := by
  simp only [tagged, List.mem_cons, List.not_mem_nil, or_false] at h
  rcases h with rfl | rfl | rfl | rfl | rfl | rfl | rfl | rfl
  -- The quick bar has a field and so has the script. The others read none of the members.
  case inr.inr.inr.inr.inl =>
    refine (@Alternative.one_field_eq_ok_iff _ _ _ "mode" _ _ _ .optional rfl _ hms _).trans ?_
    have hreads : ∀ mode, ((∃ v, ms.lookup "mode" = some v ∧
        nullable QuickbarMode.decode .copy v = .ok mode) ∨ ms.lookup "mode" = none ∧
          Presence.optional ≠ .required ∧ mode = none) ↔ (quickbar mode).ReadFrom ms := by
      intro mode
      rw [ReadFrom, Fields.get?]
      cases ms.lookup "mode" <;> simp
    constructor
    · rintro ⟨mode, rfl, hmode⟩
      exact ⟨rfl, (hreads mode).mp hmode⟩
    · rintro ⟨htag, hread⟩
      obtain ⟨mode, rfl⟩ := exists_mode_of_tag htag
      exact ⟨mode, rfl, (hreads mode).mpr hread⟩
  case inr.inr.inr.inr.inr.inr.inr =>
    refine (@Alternative.one_field_eq_ok_iff _ _ _ "code" _ _ _ .required rfl _ hms _).trans ?_
    have hreads : ∀ code, ((∃ v, ms.lookup "code" = some v ∧ text .copy v = .ok code) ∨
        ms.lookup "code" = none ∧ Presence.required ≠ .required ∧ code = "") ↔
          (runScript code).ReadFrom ms := by
      intro code
      rw [ReadFrom, Fields.get?]
      cases ms.lookup "code" <;> simp [text_eq_ok_iff]
    constructor
    · rintro ⟨code, rfl, hcode⟩
      exact ⟨rfl, (hreads code).mp hcode⟩
    · rintro ⟨htag, hread⟩
      obtain ⟨code, rfl⟩ := exists_code_of_tag htag
      exact ⟨code, rfl, (hreads code).mpr hread⟩
  all_goals cases a <;> simp [Alternative.plain, tag, ReadFrom]

/-- The tags that are set apart as the bar's own are those of the alternatives. -/
theorem map_tag_alternatives : tagged.alternatives.map Alternative.tag = tags := rfl

theorem tagged_decode_eq_ok_iff (hms : ms.Distinct) {tag : String}
    (htag : ms.get? "action" = some (.string tag)) (hown : tag ∈ tags) {a : OwnAction} :
    tagged.decode .document (.object ms) = .ok a ↔ a.tag = tag ∧ a.ReadFrom ms := by
  rw [← map_tag_alternatives] at hown
  obtain ⟨named, hnamed, hname⟩ := List.mem_map.mp hown
  cases hfind : tagged.alternatives.find? fun b => b.tag == tag with
  | none =>
    have hnot := List.find?_eq_none.mp hfind named hnamed
    exact absurd (beq_iff_eq.mpr hname) hnot
  | some alternative =>
    have hmem := List.mem_of_find?_eq_some hfind
    have hfound := List.find?_some hfind
    have herased : Fields.Distinct (ms.erase "action") :=
      List.Nodup.sublist ((List.filter_sublist).map Prod.fst) hms
    have hread : a.ReadFrom (ms.erase "action") ↔ a.ReadFrom ms :=
      readFrom_of_get?_eq fun k _ hk => by
        rw [Fields.get?, Fields.lookup_erase, if_neg hk]
        rfl
    rw [Tagged.decode_of_find htag hfind .document]
    show alternative.ofMembers (ms.erase "action") = .ok a ↔ _
    rw [alternative_eq_ok_iff herased hmem, beq_iff_eq.mp hfound, hread]

/-- The members from which one of the bar's own actions is read. -/
theorem ofMembers_eq_own_iff (hms : ms.Distinct) {a : OwnAction} :
    Action.ofMembers ms = .ok (.own a) ↔
      ms.get? "action" = some (.string a.tag) ∧ a.ReadFrom ms := by
  constructor
  · intro h
    unfold Action.ofMembers at h
    split at h
    · rename_i tag htag
      split at h
      · rename_i hown
        split at h
        · rename_i b hb
          cases h
          obtain ⟨rfl, hread⟩ :=
            (tagged_decode_eq_ok_iff hms htag (List.contains_iff_mem.mp hown)).mp hb
          exact ⟨htag, hread⟩
        · cases h
      · cases h
    · cases h
  · rintro ⟨htag, hread⟩
    have hdecode := (tagged_decode_eq_ok_iff hms htag a.tag_mem_tags).mpr ⟨rfl, hread⟩
    have hown : tags.contains a.tag = true := List.contains_iff_mem.mpr a.tag_mem_tags
    simp only [Action.ofMembers, htag, hown, hdecode, if_true]

/-- A mode of the quick bar is read from members that have none, or `null`, or the mode. -/
theorem exists_mode_readFrom_iff :
    (∃ mode, (quickbar mode).ReadFrom ms) ↔
      ms.get? "mode" = none ∨ ms.get? "mode" = some .null ∨
        ∃ v mode, ms.get? "mode" = some v ∧ QuickbarMode.decode .copy v = .ok mode := by
  simp only [ReadFrom]
  cases ms.get? "mode" with
  | none => simp
  | some v =>
    by_cases hv : v = .null
    · subst hv
      simp [nullable]
    · simp [Slot.nullable_of_ne_null hv, map_eq_ok, hv]

/-- The members from which an action with a tag is read have what the tag asks for. -/
theorem exists_readFrom_iff {tag : String} (hown : tag ∈ tags) :
    (∃ a : OwnAction, a.tag = tag ∧ a.ReadFrom ms) ↔
      (tag = "custom-js-action" → ∃ code, ms.get? "code" = some (.string code)) ∧
      (tag = "quickbar" → ms.get? "mode" = none ∨ ms.get? "mode" = some .null ∨
        ∃ v mode, ms.get? "mode" = some v ∧ QuickbarMode.decode .copy v = .ok mode) := by
  constructor
  · rintro ⟨a, rfl, hread⟩
    refine ⟨fun htag => ?_, fun htag => ?_⟩
    · obtain ⟨code, rfl⟩ := exists_code_of_tag htag
      exact ⟨code, hread⟩
    · obtain ⟨mode, rfl⟩ := exists_mode_of_tag htag
      exact exists_mode_readFrom_iff.mp ⟨mode, hread⟩
  · rintro ⟨hcode, hmode⟩
    simp only [tags, List.mem_cons, List.not_mem_nil, or_false] at hown
    rcases hown with rfl | rfl | rfl | rfl | rfl | rfl | rfl | rfl
    · exact ⟨openPopup, rfl, trivial⟩
    · exact ⟨navigateBack, rfl, trivial⟩
    · exact ⟨showNotifications, rfl, trivial⟩
    · exact ⟨toggleMenu, rfl, trivial⟩
    · obtain ⟨mode, hread⟩ := exists_mode_readFrom_iff.mpr (hmode rfl)
      exact ⟨quickbar mode, rfl, hread⟩
    · exact ⟨openEditMode, rfl, trivial⟩
    · exact ⟨logout, rfl, trivial⟩
    · obtain ⟨code, hread⟩ := hcode rfl
      exact ⟨runScript code, rfl, hread⟩

/-! ## What is written -/

theorem toFields_eq_cons (a : OwnAction) :
    a.toFields = ("action", .string a.tag) :: a.details := by
  cases a with
  | quickbar mode => cases mode <;> rfl
  | _ => rfl

theorem tag_own (a : OwnAction) : (Action.own a).tag = a.tag := by
  cases a with
  | quickbar mode => cases mode <;> rfl
  | _ => rfl

end OwnAction

namespace Action

variable {ms : Fields}

theorem ofMembers_eq_host_iff {fields : Fields} :
    ofMembers ms = .ok (.host fields) ↔
      fields = ms ∧ ∃ tag, ms.get? "action" = some (.string tag) ∧ tag ∉ OwnAction.tags := by
  constructor
  · intro h
    unfold ofMembers at h
    split at h
    · rename_i tag htag
      split at h
      · split at h <;> cases h
      · rename_i hhost
        cases h
        exact ⟨rfl, tag, htag, fun hmem => hhost (List.contains_iff_mem.mpr hmem)⟩
    · cases h
  · rintro ⟨rfl, tag, htag, hhost⟩
    have hnot : OwnAction.tags.contains tag = false := by simpa using hhost
    simp only [ofMembers, htag, hnot]
    rfl

theorem tag_host {tag : String} (h : ms.get? "action" = some (.string tag)) :
    (host ms).tag = tag := by
  rw [Action.tag, toFields, h]

/-- Both ways of writing an action that was read give one value. -/
theorem toJson_eq_serialized (hms : (Json.object ms).WellFormed) {a : Action}
    (h : ofMembers ms = .ok a) : a.toJson = a.serialized := by
  rcases eq_host_of_ofMembers h with ⟨own, rfl⟩ | rfl
  · have hascending := own.ascending_toFields
    rw [toJson, toFields, serialized, ← own.toFields_eq_cons, hascending.ofList_eq]
  · rw [toJson, toFields, serialized, hms.sorted_eq]

/-- Members are read as an action exactly if they have a tag and, where the tag is one of the bar's
own, what it asks for: code for a script, and for the quick bar a mode, unless it is absent or
`null`. The action has the tag that stands there, and is one of the bar's own if the tag is. Both
ways of writing it give one value, from which it is read again; of an action of the host that is
what stood there. Members that the tag does not ask for make no difference to the bar's own. -/
theorem made_of_members (hms : (Json.object ms).WellFormed) :
    ((∃ a, ofMembers ms = .ok a) ↔
      ∃ tag, ms.get? "action" = some (.string tag) ∧
        (tag = "custom-js-action" → ∃ code, ms.get? "code" = some (.string code)) ∧
        (tag = "quickbar" → ms.get? "mode" = none ∨ ms.get? "mode" = some .null ∨
          ∃ v mode, ms.get? "mode" = some v ∧ QuickbarMode.decode .copy v = .ok mode)) ∧
    ∀ a, ofMembers ms = .ok a →
      ((∃ own, a = .own own) ↔ a.tag ∈ OwnAction.tags) ∧
      ms.get? "action" = some (.string a.tag) ∧
      a.toJson = a.serialized ∧
      (∃ written, a.toJson = .object written ∧ ofMembers written = .ok a) ∧
      (∀ fields, a = .host fields → a.toJson = .object ms) ∧
      ∀ own, a = .own own → ∀ others : Fields, others.Distinct →
        (∀ k ∈ own.keys, others.get? k = ms.get? k) → ofMembers others = .ok a := by
  have hdistinct := hms.ascending.distinct
  refine ⟨⟨?_, ?_⟩, fun a ha => ?_⟩
  · rintro ⟨a, ha⟩
    cases a with
    | own a =>
      obtain ⟨htag, hread⟩ := (OwnAction.ofMembers_eq_own_iff hdistinct).mp ha
      exact ⟨a.tag, htag, (OwnAction.exists_readFrom_iff a.tag_mem_tags).mp ⟨a, rfl, hread⟩⟩
    | host fields =>
      obtain ⟨-, tag, htag, hhost⟩ := ofMembers_eq_host_iff.mp ha
      refine ⟨tag, htag, ?_, ?_⟩
      · rintro rfl
        exact absurd (by decide) hhost
      · rintro rfl
        exact absurd (by decide) hhost
  · rintro ⟨tag, htag, hneeds⟩
    by_cases hown : tag ∈ OwnAction.tags
    · obtain ⟨a, rfl, hread⟩ := (OwnAction.exists_readFrom_iff hown).mpr hneeds
      exact ⟨.own a, (OwnAction.ofMembers_eq_own_iff hdistinct).mpr ⟨htag, hread⟩⟩
    · exact ⟨.host ms, ofMembers_eq_host_iff.mpr ⟨rfl, tag, htag, hown⟩⟩
  · have hserialized := toJson_eq_serialized hms ha
    cases a with
    | own a =>
      obtain ⟨htag, hread⟩ := (OwnAction.ofMembers_eq_own_iff hdistinct).mp ha
      rw [a.tag_own]
      refine ⟨⟨fun _ => a.tag_mem_tags, fun _ => ⟨a, rfl⟩⟩, htag, hserialized,
        ⟨a.toFields, rfl, a.ofMembers_toFields⟩, ?_, ?_⟩
      · intro fields heq
        cases heq
      · intro own heq others hothers hkeys
        cases heq
        have htag' := (hkeys "action" a.action_mem_keys).trans htag
        have hread' := (OwnAction.readFrom_of_get?_eq fun k hk _ => hkeys k hk).mpr hread
        exact (OwnAction.ofMembers_eq_own_iff hothers).mpr ⟨htag', hread'⟩
    | host fields =>
      obtain ⟨rfl, tag, htag, hhost⟩ := ofMembers_eq_host_iff.mp ha
      rw [tag_host htag]
      refine ⟨⟨?_, fun hown => absurd hown hhost⟩, htag, hserialized, ⟨fields, rfl, ha⟩,
        fun _ _ => rfl, ?_⟩
      · rintro ⟨own, heq⟩
        cases heq
      · intro own heq
        cases heq

theorem made_of_members_quickbar_and_navigate :
    let quick : Fields := [("action", .string "quickbar"), ("code", .int 1),
      ("mode", .object [("entities", .null)])]
    let navigate : Fields := [("action", .string "navigate"), ("mode", .int 1)]
    let a : Action := .own (.quickbar (some .entities))
    (Json.object quick).WellFormed ∧ (Json.object navigate).WellFormed ∧
    ofMembers quick = .ok a ∧ a.toJson = a.serialized ∧
    (∃ written, a.toJson = .object written ∧ ofMembers written = .ok a) ∧
    ofMembers navigate = .ok (.host navigate) ∧ (host navigate).toJson = .object navigate := by
  intro quick navigate a
  have hmode : (Json.object [("entities", .null)]).WellFormed :=
    .object _ (List.pairwise_singleton _ _) (by simpa using Json.WellFormed.null)
  have hone : (Json.int 1).WellFormed := .int 1 (by decide) (by decide)
  have hquick : (Json.object quick).WellFormed := by
    have hascending : quick.Pairwise fun p q => p.1 < q.1 := by decide
    exact .object _ hascending (by simp [quick, hmode, hone, Json.WellFormed.string])
  have hnavigate : (Json.object navigate).WellFormed := by
    have hascending : navigate.Pairwise fun p q => p.1 < q.1 := by decide
    exact .object _ hascending (by simp [navigate, hone, Json.WellFormed.string])
  have ha : ofMembers quick = .ok a := rfl
  have hhost : ofMembers navigate = .ok (.host navigate) := rfl
  obtain ⟨-, -, hserialized, hagain, -⟩ := (made_of_members hquick).2 a ha
  obtain ⟨-, -, -, -, hwritten, -⟩ := (made_of_members hnavigate).2 (.host navigate) hhost
  exact ⟨hquick, hnavigate, ha, hserialized, hagain, hhost, hwritten navigate rfl⟩

end Action

end NavigationBar
