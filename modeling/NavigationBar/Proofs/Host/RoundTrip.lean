import NavigationBar.Proofs.Decode.Slots
import NavigationBar.Proofs.Host.Snapshots

/-!
# Snapshots and their written forms

A snapshot has slots for three members of a document and keeps all the others as they are. So a
document says the same as what is written of the snapshot that was decoded from it: the members
without a slot stand there unchanged, and those with one are decoded to what they were before.
-/

namespace NavigationBar

open Decode

namespace Entity

/-- The slots of entities. -/
def slots : List (Slot Entity) := [
  .always "entity_id" text .string Entity.id fun e id => { e with id },
  .always "state" text .string Entity.state fun e state => { e with state },
  .always "attributes" members .object Entity.attributes
    fun e attributes => { e with attributes },
  .always "last_changed" text .string Entity.lastChanged
    fun e lastChanged => { e with lastChanged },
  .always "last_updated" text .string Entity.lastUpdated
    fun e lastUpdated => { e with lastUpdated }]

theorem describes : Describes slots record where
  fields_eq := rfl
  keys_nodup := by decide
  get_keep := by simp [slots, Slot.always]
  get_keep_other := by simp [slots, Slot.always]
  ext := by
    rintro ⟨⟩ ⟨⟩ h
    simpa [slots, Slot.always] using h
  initial := by
    have htext : Yields text "" := ⟨.document, _, .string "", rfl⟩
    have hmembers : Yields members [] :=
      ⟨.document, _, .object [] .nil (List.forall_mem_nil _), rfl⟩
    simp [slots, Slot.always, record, htext, hmembers]

theorem attributes_mem_slots : Slot.always "attributes" members .object Entity.attributes
    (fun e attributes => { e with attributes }) ∈ slots := by
  simp [slots]

theorem wellFormed_toJson {e : Entity} (h : Yields decode e) : e.toJson.WellFormed := by
  have hattributes : (Json.object e.attributes).WellFormed :=
    Yields.wellFormed_members (describes.yielded h _ attributes_mem_slots)
  refine .object _ ?_ ?_
  · simp only [Fields.Ascending, List.pairwise_cons, List.forall_mem_cons]
    decide
  · simp [hattributes, Json.WellFormed.string]

/-- An entity is read again, with its attributes, from what is written of it. -/
theorem decode_toJson (o : Origin) (e : Entity) : decode o e.toJson = .ok e := rfl

/-- An entity has the attributes that its document has. -/
theorem attributes_of_decode {o : Origin} {v : Json} (hv : v.WellFormed) {e : Entity}
    (h : decode o v = .ok e) {a : Json} (ha : v.member? ["attributes"] = some a) :
    a = .object e.attributes := by
  obtain ⟨ms, rfl⟩ := Json.exists_fields (Json.isObject_of_member? ha)
  have hlookup : ms.lookup "attributes" = some a := by
    rw [Json.member?_object, Option.bind_eq_some_iff] at ha
    obtain ⟨w, hw, hroot⟩ := ha
    rw [Json.member?_nil] at hroot
    rw [hw, hroot]
  have hrestores := describes.restores_of_ofMembers hv.ascending.distinct h _ attributes_mem_slots
  have hread : members o a = .ok e.attributes := hrestores.decode hlookup
  cases a with
  | object fields => exact congrArg Json.object (Except.ok.inj hread)
  | _ => cases hread

end Entity

namespace Snapshot

/-- The slots of snapshots. -/
def slots : List (Slot Snapshot) := [
  .always "states" (dictionary Entity.decode)
    (fun entities => .object (entities.map fun p => (p.1, p.2.toJson))) Snapshot.entities
    fun s entities => { s with entities },
  .always "user" value id Snapshot.user fun s user => { s with user },
  .always "current_path" text .string Snapshot.path fun s path => { s with path }]

/-- The keys that snapshots have slots for. -/
def ownKeys : List String := ["states", "user", "current_path"]

theorem mem_ownKeys_iff {key : String} : key ∈ ownKeys ↔ ∃ slot ∈ slots, slot.key = key := by
  have hkeys : ownKeys = slots.map Slot.key := rfl
  rw [hkeys, List.mem_map]

theorem presence_slots : ∀ slot ∈ slots, slot.presence ≠ .required := by
  simp [slots, Slot.always]

theorem get_keep : ∀ slot ∈ slots, ∀ s b, slot.get (slot.keep s b) = b := by
  simp [slots, Slot.always]

theorem get_keep_other : ∀ slot ∈ slots, ∀ other ∈ slots, slot.key ≠ other.key → ∀ s b,
    other.get (slot.keep s b) = other.get s := by
  simp [slots, Slot.always]

theorem extra_keep : ∀ slot ∈ slots, ∀ s b, (slot.keep s b).extra = s.extra := by
  simp [slots, Slot.always]

theorem get_extra (s : Snapshot) (extra : Fields) : ∀ slot ∈ slots,
    slot.get { s with extra } = slot.get s := by
  simp [slots, Slot.always]

/-- A snapshot is what its slots hold and the members that it keeps. -/
theorem ext_slots {s t : Snapshot} (hslots : ∀ slot ∈ slots, slot.get s = slot.get t)
    (hextra : s.extra = t.extra) : s = t := by
  obtain ⟨⟩ := s
  obtain ⟨⟩ := t
  simp_all [slots, Slot.always]

/-! ## Decoding one member -/

theorem put_slot (s : Snapshot) (v : Json) : ∀ slot ∈ slots,
    s.put slot.key v = (slot.decode .document v).map (slot.keep s) := by
  simp [slots, Slot.always, put, value, Except.map]

theorem put_other (s : Snapshot) {key : String} (hkey : key ∉ ownKeys) (v : Json) :
    s.put key v = .ok { s with extra := s.extra.set key v } := by
  simp only [ownKeys, List.mem_cons, List.not_mem_nil, or_false, not_or] at hkey
  simp [put, hkey]

/-- A member goes to the slot with its key, or to the members that are kept. -/
theorem put_cases {s t : Snapshot} {key : String} {v : Json} (h : s.put key v = .ok t) :
    (∃ slot ∈ slots, slot.key = key ∧ ∃ b, slot.decode .document v = .ok b ∧ slot.keep s b = t) ∨
    (key ∉ ownKeys ∧ t = { s with extra := s.extra.set key v }) := by
  by_cases hkey : key ∈ ownKeys
  · obtain ⟨slot, hslot, rfl⟩ := mem_ownKeys_iff.mp hkey
    rw [put_slot s v slot hslot] at h
    exact .inl ⟨slot, hslot, rfl, map_eq_ok.mp h⟩
  · rw [put_other s hkey] at h
    exact .inr ⟨hkey, (Except.ok.inj h).symm⟩

/-! ## Decoding a document -/

/-- The members that snapshots have no slots for. -/
def others (ms : Fields) : Fields :=
  ms.filter fun p => !ownKeys.contains p.1

theorem lookup_others (ms : Fields) (key : String) :
    (others ms).lookup key = if key ∈ ownKeys then none else ms.lookup key := by
  by_cases hkey : key ∈ ownKeys
  · rw [if_pos hkey]
    apply Fields.lookup_eq_none
    simp [others, hkey]
  · have hkeep : (!ownKeys.contains key) = true := by simp [hkey]
    rw [if_neg hkey]
    exact @Fields.lookup_filter_key (fun k => !ownKeys.contains k) key hkeep ms

/-- A snapshot holds what a document tells: in each slot what the member under its key decodes to,
or what it holds initially, and besides that all other members. -/
structure Tells (ms : Fields) (s : Snapshot) : Prop where
  /-- The slots hold what their members decode to. -/
  restores : ∀ slot ∈ slots, slot.Restores .document ms {} s
  /-- The other members are kept. -/
  extra_eq : s.extra = others ms

/-- Decodes members into a snapshot, one after the other. -/
def putAll (s : Snapshot) (ms : Fields) : Decoded Snapshot :=
  ms.foldlM (fun s p => s.put p.1 p.2) s

theorem decode_object (o : Origin) (ms : Fields) : decode o (.object ms) = putAll {} ms := rfl

theorem restores_of_putAll {ms : Fields} (hms : ms.Distinct) {s : Snapshot}
    (h : putAll {} ms = .ok s) :
    ∀ slot ∈ slots, slot.Restores .document ms {} s := by
  intro slot hslot
  have hread := foldlM_reads slot.key slot.get (slot.decode .document) ?_ ?_ hms h
  · rw [Slot.Restores]
    cases hlookup : ms.lookup slot.key with
    | some v =>
      rw [hlookup] at hread
      exact hread
    | none =>
      rw [hlookup] at hread
      exact ⟨presence_slots slot hslot, hread⟩
  · intro x v y hput
    rw [put_slot x v slot hslot] at hput
    obtain ⟨b, hb, rfl⟩ := map_eq_ok.mp hput
    rw [hb, get_keep slot hslot]
  · intro x p y hp hput
    obtain ⟨other, hother, hkey, b, -, rfl⟩ | ⟨-, rfl⟩ := put_cases hput
    · exact get_keep_other other hother slot hslot (hkey ▸ hp) x b
    · exact get_extra x _ slot hslot

theorem extra_of_putAll {ms : Fields} {s t : Snapshot}
    (h : s.putAll ms = .ok t) :
    t.extra = (others ms).foldl (fun fields p => fields.set p.1 p.2) s.extra := by
  induction ms generalizing s with
  | nil => exact congrArg extra (Except.ok.inj h).symm
  | cons p ms ih =>
    rw [putAll, List.foldlM_cons] at h
    obtain ⟨u, hu, h⟩ := bind_eq_ok.mp h
    rw [ih h]
    obtain ⟨slot, hslot, hkey, b, -, rfl⟩ | ⟨hkey, rfl⟩ := put_cases hu
    · have hown : p.1 ∈ ownKeys := mem_ownKeys_iff.mpr ⟨slot, hslot, hkey⟩
      simp [others, hown, extra_keep slot hslot]
    · simp [others, hkey]

theorem tells_of_putAll {ms : Fields} (hms : ms.Ascending) {s : Snapshot}
    (h : putAll {} ms = .ok s) : Tells ms s where
  restores := restores_of_putAll hms.distinct h
  extra_eq := by
    have hothers : (others ms).Ascending := hms.filter _
    rw [extra_of_putAll h]
    exact hothers.ofList_eq

/-- A snapshot is decoded from a document exactly if the document tells it. -/
theorem decode_eq_ok_iff {o : Origin} {ms : Fields} (hms : ms.Ascending) {s : Snapshot} :
    decode o (.object ms) = .ok s ↔ Tells ms s := by
  rw [decode_object]
  refine ⟨tells_of_putAll hms, fun h => ?_⟩
  have hput : ∀ p ∈ ms, ∀ x : Snapshot, ∃ y, x.put p.1 p.2 = .ok y := by
    intro p hp x
    by_cases hkey : p.1 ∈ ownKeys
    · obtain ⟨slot, hslot, hslotkey⟩ := mem_ownKeys_iff.mp hkey
      have hlookup : ms.lookup slot.key = some p.2 :=
        hms.distinct.lookup_eq_some_iff.mpr (hslotkey ▸ hp)
      rw [← hslotkey, put_slot x p.2 slot hslot, (h.restores slot hslot).decode hlookup]
      exact ⟨_, rfl⟩
    · exact ⟨_, put_other x hkey p.2⟩
  obtain ⟨t, ht⟩ := exists_foldlM_eq_ok hput {}
  have htells : Tells ms t := tells_of_putAll hms ht
  have hts : t = s := ext_slots
    (fun slot hslot => (htells.restores slot hslot).unique (h.restores slot hslot))
    (htells.extra_eq.trans h.extra_eq.symm)
  exact hts ▸ ht

/-! ## What is written -/

/-- The members that are written of a snapshot. -/
def written (s : Snapshot) : Fields :=
  ((s.extra.set "states" s.entitiesJson).set "user" s.user).set "current_path" (.string s.path)

theorem toJson_eq (s : Snapshot) : s.toJson = .object s.written := rfl

theorem yields_initial : ∀ slot ∈ slots, Yields slot.decode (slot.get {}) := by
  have hentities : Yields (dictionary Entity.decode) [] :=
    ⟨.document, _, .object [] .nil (List.forall_mem_nil _), rfl⟩
  have huser : Yields value .null := ⟨.document, _, .null, rfl⟩
  have hpath : Yields text "" := ⟨.document, _, .string "", rfl⟩
  simp [slots, Slot.always, hentities, huser, hpath]

theorem wellFormed_entities {entities : List (String × Entity)}
    (h : Yields (dictionary Entity.decode) entities) :
    (Json.object (entities.map fun p => (p.1, p.2.toJson))).WellFormed := by
  obtain ⟨hkeys, hyields⟩ := h.of_dictionary
  refine .object _ (ascending_dictionary hkeys Entity.toJson) fun q hq => ?_
  obtain ⟨p, hp, rfl⟩ := List.mem_map.mp hq
  exact Entity.wellFormed_toJson (hyields p hp)

theorem wellFormed_write : ∀ slot ∈ slots, ∀ b, Yields slot.decode b →
    ∀ v, slot.write b = some v → v.WellFormed := by
  have huser : ∀ b, Yields value b → b.WellFormed := by
    rintro b ⟨_, v, hv, hb⟩
    exact Except.ok.inj hb ▸ hv
  simp only [slots, Slot.always, List.forall_mem_cons, Option.some.injEq, forall_eq']
  exact ⟨fun _ => wellFormed_entities, huser, fun path _ => .string path,
    List.forall_mem_nil _⟩

theorem ascending_written {s : Snapshot} (h : s.extra.Ascending) : s.written.Ascending :=
  ((h.set _ _).set _ _).set _ _

theorem lookup_written (s : Snapshot) : ∀ slot ∈ slots,
    s.written.lookup slot.key = slot.write (slot.get s) := by
  simp [slots, Slot.always, written, Fields.lookup_set, entitiesJson]

theorem lookup_written_other (s : Snapshot) {key : String} (hkey : key ∉ ownKeys) :
    s.written.lookup key = s.extra.lookup key := by
  simp only [ownKeys, List.mem_cons, List.not_mem_nil, or_false, not_or] at hkey
  simp [written, Fields.lookup_set, hkey]

theorem decode_write (o : Origin) : ∀ slot ∈ slots, ∀ b : slot.Content,
    ∃ v, slot.write b = some v ∧ slot.decode o v = .ok b := by
  have hentities := dictionary_map (Entity.decode_toJson o)
  simp [slots, Slot.always, hentities, value, text]

namespace Tells

variable {ms : Fields} {s : Snapshot}

theorem ascending_extra (h : Tells ms s) (hms : ms.Ascending) : s.extra.Ascending := by
  rw [h.extra_eq]
  exact hms.filter _

theorem lookup_written (h : Tells ms s) {key : String} (hkey : key ∉ ownKeys) :
    s.written.lookup key = ms.lookup key := by
  rw [lookup_written_other s hkey, h.extra_eq, lookup_others, if_neg hkey]

/-- What is written of a snapshot tells that snapshot. -/
theorem written (h : Tells ms s) (hms : ms.Ascending) : Tells s.written s where
  restores := by
    intro slot hslot
    obtain ⟨v, hv, hdecode⟩ := decode_write .document slot hslot (slot.get s)
    rw [Slot.Restores, Snapshot.lookup_written s slot hslot, hv]
    exact hdecode
  extra_eq := by
    have hextra := h.ascending_extra hms
    have hwritten : (others s.written).Ascending := (ascending_written hextra).filter _
    refine hextra.ext hwritten fun key => ?_
    rw [lookup_others]
    by_cases hkey : key ∈ ownKeys
    · rw [h.extra_eq, lookup_others, if_pos hkey, if_pos hkey]
    · rw [if_neg hkey, lookup_written_other s hkey]

/-- What is written of a snapshot is a document. -/
theorem wellFormed_written (h : Tells ms s) (hms : (Json.object ms).WellFormed) :
    (Json.object s.written).WellFormed := by
  have hextra : (Json.object s.extra).WellFormed := by
    rw [h.extra_eq]
    cases hms with
    | object _ ascending each =>
      exact .object _ (ascending.filter _) fun p hp => each p (List.mem_of_mem_filter hp)
  have hvalues : ∀ slot ∈ slots, ∀ v, slot.write (slot.get s) = some v → v.WellFormed :=
    fun slot hslot => wellFormed_write slot hslot _
      ((h.restores slot hslot).yields hms (yields_initial slot hslot))
  simp only [slots, Slot.always, List.forall_mem_cons, Option.some.injEq, forall_eq'] at hvalues
  obtain ⟨hstates, huser, hpath, -⟩ := hvalues
  exact ((hextra.set "states" hstates).set "user" huser).set "current_path" hpath

theorem mem_keys_written (h : Tells ms s) (key : String) :
    key ∈ s.written.map Prod.fst ↔ key ∈ ms.map Prod.fst ∨ key ∈ ownKeys := by
  by_cases hkey : key ∈ ownKeys
  · have hmem : key ∈ s.written.map Prod.fst := by
      obtain ⟨slot, hslot, rfl⟩ := mem_ownKeys_iff.mp hkey
      obtain ⟨v, hv, -⟩ := decode_write .document slot hslot (slot.get s)
      rw [Fields.mem_keys_iff, Snapshot.lookup_written s slot hslot, hv]
      rfl
    simp [hmem, hkey]
  · simp [Fields.mem_keys_iff, h.lookup_written hkey, hkey]

/-- The attributes of an entity stand in what is written as they stand in the document. -/
theorem member?_attributes (h : Tells ms s) (hms : (Json.object ms).WellFormed) {id : String}
    {a : Json} (ha : (Json.object ms).member? ["states", id, "attributes"] = some a) :
    s.toJson.member? ["states", id, "attributes"] = some a := by
  rw [Json.member?_object, Option.bind_eq_some_iff] at ha
  obtain ⟨v, hv, ha⟩ := ha
  obtain ⟨es, rfl⟩ := Json.exists_fields (Json.isObject_of_member? ha)
  rw [Json.member?_object, Option.bind_eq_some_iff] at ha
  obtain ⟨w, hw, ha⟩ := ha
  have hstates := h.restores _ (List.mem_cons_self)
  have hentities : dictionary Entity.decode .document (.object es) = .ok s.entities :=
    hstates.decode hv
  obtain ⟨e, he, hdecode⟩ := exists_lookup_dictionary hentities hw
  have hwritten : s.written.lookup "states" = some s.entitiesJson :=
    Snapshot.lookup_written s _ List.mem_cons_self
  rw [toJson_eq, Json.member?_object, hwritten, Option.bind_some, entitiesJson, Json.member?_object,
    Fields.lookup_map_values, he, Entity.attributes_of_decode ((hms.of_lookup hv).of_lookup hw)
      hdecode ha]
  rfl

end Tells

/-- A snapshot keeps what it has no slots for. What is written of one that was decoded is a
document: the members of the decoded one with any key but the three stand in it as they were, there
are no others besides those three, it is decoded to the same snapshot, and every entity has the
attributes that it had. -/
theorem keeps_others_and_reads_back {o : Origin} {ms : Fields} (hms : (Json.object ms).WellFormed)
    {s : Snapshot} (h : decode o (.object ms) = .ok s) :
    ∃ written, s.toJson = .object written ∧ (Json.object written).WellFormed ∧
      (∀ key, key ∉ ownKeys → written.lookup key = ms.lookup key) ∧
      (∀ key, key ∈ written.map Prod.fst ↔ key ∈ ms.map Prod.fst ∨ key ∈ ownKeys) ∧
      (∀ o', decode o' s.toJson = .ok s) ∧
      ∀ id a, (Json.object ms).member? ["states", id, "attributes"] = some a →
        s.toJson.member? ["states", id, "attributes"] = some a := by
  have htells : Tells ms s := (decode_eq_ok_iff hms.ascending).mp h
  have hwritten := htells.wellFormed_written hms
  refine ⟨s.written, s.toJson_eq, hwritten, fun key hkey => htells.lookup_written hkey,
    htells.mem_keys_written, fun o' => ?_, fun id a ha => htells.member?_attributes hms ha⟩
  rw [toJson_eq, decode_eq_ok_iff hwritten.ascending]
  exact htells.written hms.ascending

/-- A lamp, with an attribute that the bar knows nothing of. -/
def lamp : Json :=
  .object [("attributes", .object [("icon", .string "mdi:lamp")]), ("state", .string "on")]

/-- What a host with that lamp tells, and two members more than snapshots have slots for. -/
def kitchen : Fields := [
  ("areas", .array [.string "kitchen"]),
  ("states", .object [("light.kitchen", lamp)]),
  ("version", .bool true)]

theorem wellFormed_kitchen : (Json.object kitchen).WellFormed := by
  have hlamp : lamp.WellFormed := by
    have hattributes : (Json.object [("icon", .string "mdi:lamp")]).WellFormed :=
      .object _ (List.pairwise_singleton _ _) (List.forall_mem_singleton.mpr (.string _))
    have hkeys : "attributes" < "state" := by decide
    exact .object _ (by simpa [Fields.Ascending] using hkeys)
      (by simp [hattributes, Json.WellFormed.string])
  have hstates : (Json.object [("light.kitchen", lamp)]).WellFormed :=
    .object _ (List.pairwise_singleton _ _) (List.forall_mem_singleton.mpr hlamp)
  have hareas : (Json.array [.string "kitchen"]).WellFormed :=
    .array _ (List.forall_mem_singleton.mpr (.string _))
  have hkeys : "areas" < "states" ∧ "areas" < "version" ∧ "states" < "version" := by decide
  exact .object _ (by simpa [Fields.Ascending, kitchen, and_assoc] using hkeys)
    (by simp [kitchen, hareas, hstates, Json.WellFormed.bool])

/-- The lamp's attribute and the two members stand in what is written, and are read back. -/
theorem keeps_others_and_reads_back_kitchen :
    ∃ s, decode .document (.object kitchen) = .ok s ∧
      (∃ written, s.toJson = .object written ∧
        written.lookup "areas" = some (.array [.string "kitchen"]) ∧
        written.lookup "version" = some (.bool true) ∧ "user" ∈ written.map Prod.fst) ∧
      decode .document s.toJson = .ok s ∧
      s.toJson.member? ["states", "light.kitchen", "attributes"] =
        some (.object [("icon", .string "mdi:lamp")]) := by
  obtain ⟨written, hs, -, hkept, hkeys, hagain, hattributes⟩ :=
    keeps_others_and_reads_back (o := .document) wellFormed_kitchen rfl
  refine ⟨_, rfl, ⟨written, hs, ?_, ?_, ?_⟩, hagain .document, ?_⟩
  · exact hkept "areas" (by decide)
  · exact hkept "version" (by decide)
  · exact (hkeys "user").mpr (.inr (by decide))
  · exact hattributes "light.kitchen" _ rfl

end Snapshot

end NavigationBar
