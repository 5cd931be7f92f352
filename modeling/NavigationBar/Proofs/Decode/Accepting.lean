import NavigationBar.Decode.Tagged
import NavigationBar.Proofs.Decode.Steps
import NavigationBar.Proofs.Json.Ordering

/-!
# What decoders accept

Names are accepted as texts and as objects with one key; a record with one field looks at the member
under its key and at no other; a tagged value is decoded by the alternative that its tag names.
-/

namespace NavigationBar

namespace Decode

variable {α β : Type}

theorem text_eq_ok_iff {o : Origin} {v : Json} {s : String} :
    text o v = .ok s ↔ v = .string s := by
  cases v <;> simp [text, mismatch]

theorem nothing_eq_ok_iff {o : Origin} {v : Json} :
    nothing o v = .ok () ↔ v = .null ∨ o = .copy ∧ v = .object [] := by
  cases v with
  | object fields => cases o <;> cases fields <;> simp [nothing, mismatch]
  | _ => cases o <;> simp [nothing, mismatch]

/-- A name is accepted as a text, or as the only key of an object that carries nothing. -/
theorem name_eq_ok_iff {table : List (String × α)} {o : Origin} {v : Json} {a : α} :
    name table o v = .ok a ↔ ∃ s, table.lookup s = some a ∧
      (v = .string s ∨ ∃ payload, v = .object [(s, payload)] ∧ nothing o payload = .ok ()) := by
  cases v with
  | string s =>
    simp only [name, Json.string.injEq, reduceCtorEq, false_and, exists_false, or_false]
    cases hs : table.lookup s with
    | none => simp [hs]
    | some b => simp [hs]
  | object fields =>
    rcases fields with _ | ⟨⟨s, payload⟩, _ | ⟨q, rest⟩⟩
    · simp [name]
    · cases hs : table.lookup s with
      | none => simp [name, hs, bind, Except.bind]
      | some b =>
        cases hp : nothing o payload with
        | error e => simp [name, hs, hp, bind, Except.bind]
        | ok u => simp [name, hs, hp, bind, Except.bind, pure, Except.pure]
    · simp [name]
  | _ => simp [name, mismatch]

namespace Record

variable {r : Record α} {key : String} {d : Decoder β} {keep : α → β → α} {presence : Presence}
  {ms : Fields}

theorem field?_of_ne (hr : r.fields = [(Field.of key d keep).needed presence]) {k : String}
    (h : key ≠ k) : r.field? k = none := by
  rw [field?, hr, List.find?_cons_of_neg (by simpa [Field.needed, Field.of] using h)]
  rfl

/-- Members that a record has no field for leave it alone. -/
theorem putAll_of_lookup_eq_none (hr : r.fields = [(Field.of key d keep).needed presence])
    (h : ms.lookup key = none) (o : Origin) (x : α) : r.putAll o x ms = .ok x := by
  induction ms with
  | nil => rfl
  | cons p ms ih =>
    rw [Fields.lookup_cons_ite] at h
    by_cases hk : key = p.1
    · rw [if_pos hk] at h
      cases h
    · rw [if_neg hk] at h
      rw [putAll, List.foldlM_cons]
      simp only [field?_of_ne hr hk]
      exact ih h

/-- Of the members of a record with one field, the one under its key is put in. -/
theorem putAll_of_lookup (hr : r.fields = [(Field.of key d keep).needed presence])
    (hms : ms.Distinct) {v : Json} (h : ms.lookup key = some v) (o : Origin) (x : α) :
    r.putAll o x ms = (d o v).map (keep x) := by
  induction ms with
  | nil => cases h
  | cons p ms ih =>
    obtain ⟨hnotin, hrest⟩ := List.nodup_cons.mp hms
    rw [Fields.lookup_cons_ite] at h
    by_cases hk : key = p.1
    · subst hk
      rw [if_pos rfl] at h
      obtain rfl := Option.some.inj h
      have hfield : r.field? p.1 = some ((Field.of p.1 d keep).needed presence) := by
        rw [field?, hr]
        exact List.find?_cons_of_pos (beq_self_eq_true p.1)
      rw [putAll, List.foldlM_cons]
      simp only [hfield]
      show ((d o p.2).map (keep x) >>= fun y => r.putAll o y ms) = (d o p.2).map (keep x)
      cases d o p.2 with
      | error e => rfl
      | ok b => exact putAll_of_lookup_eq_none hr (Fields.lookup_eq_none hnotin) o (keep x b)
    · rw [if_neg hk] at h
      rw [putAll, List.foldlM_cons]
      simp only [field?_of_ne hr hk]
      exact ih hrest h

/-- A record with one field is decoded from the member under its key, whatever else is there. -/
theorem ofMembers_of_lookup (hr : r.fields = [(Field.of key d keep).needed presence])
    (hms : ms.Distinct) {v : Json} (h : ms.lookup key = some v) (o : Origin) :
    r.ofMembers o ms = (d o v).map (keep r.initial) := by
  have hmissing : r.missing? ms = none := by
    simp [missing?, hr, Field.needed, Field.of, Fields.has, h]
  rw [ofMembers, putAll_of_lookup hr hms h]
  cases d o v <;> simp [bind, Except.bind, Except.map, hmissing]

theorem ofMembers_of_lookup_eq_none (hr : r.fields = [(Field.of key d keep).needed presence])
    (h : ms.lookup key = none) (o : Origin) :
    r.ofMembers o ms =
      if presence = .required then .error (.missingField key) else .ok r.initial := by
  have hmissing : r.missing? ms =
      if presence = .required then some ((Field.of key d keep).needed presence) else none := by
    cases presence <;> simp [missing?, hr, Field.needed, Field.of, Fields.has, h]
  rw [ofMembers, putAll_of_lookup_eq_none hr h]
  simp only [bind, Except.bind, hmissing]
  by_cases hpresence : presence = .required
  · rw [if_pos hpresence, if_pos hpresence]
    rfl
  · rw [if_neg hpresence, if_neg hpresence]

end Record

namespace Alternative

/-- An alternative with one field takes on what is decoded under its key, or else its default. -/
theorem one_field_eq_ok_iff {tag key : String} {record : Record β} {make : β → α} {d : Decoder β}
    {presence : Presence} (hr : record.fields = [(Field.of key d fun _ b => b).needed presence])
    {ms : Fields} (hms : ms.Distinct) {a : α} :
    (fields tag record make).ofMembers ms = .ok a ↔ ∃ b, make b = a ∧
      ((∃ v, ms.lookup key = some v ∧ d .copy v = .ok b) ∨
        ms.lookup key = none ∧ presence ≠ .required ∧ b = record.initial) := by
  have hread : ∀ b, record.ofMembers .copy ms = .ok b ↔
      (∃ v, ms.lookup key = some v ∧ d .copy v = .ok b) ∨
        ms.lookup key = none ∧ presence ≠ .required ∧ b = record.initial := by
    intro b
    cases h : ms.lookup key with
    | some v =>
      rw [Record.ofMembers_of_lookup hr hms h]
      simp [map_eq_ok]
    | none =>
      rw [Record.ofMembers_of_lookup_eq_none hr h]
      by_cases hpresence : presence = .required <;> simp [hpresence, eq_comm]
  rw [fields, map_eq_ok]
  constructor
  · rintro ⟨b, hb, rfl⟩
    exact ⟨b, rfl, (hread b).mp hb⟩
  · rintro ⟨b, rfl, hb⟩
    exact ⟨b, (hread b).mpr hb, rfl⟩

end Alternative

namespace Tagged

variable {t : Tagged α}

/-- The members besides the tag are decoded by the alternative that the tag names. -/
theorem decode_of_find {ms : Fields} {tag : String} {alternative : Alternative α}
    (htag : ms.get? t.key = some (.string tag))
    (hfind : (t.alternatives.find? fun a => a.tag == tag) = some alternative) (o : Origin) :
    t.decode o (.object ms) = alternative.ofMembers (ms.erase t.key) := by
  rw [decode, htag]
  show (t.find (.string tag) >>= fun a => a.ofMembers (ms.erase t.key)) = _
  rw [find, hfind]
  rfl

end Tagged

end Decode

end NavigationBar
