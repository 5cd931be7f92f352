import Mathlib.Data.List.Nodup
import NavigationBar.Decode.Record
import NavigationBar.Proofs.Decode.Steps
import NavigationBar.Proofs.Decode.Writing

/-!
# Records and their written forms

A slot is a field of a record type together with what a record holds under it and how that is
written. A record that was decoded holds in every slot what the slot's decoder yields; members that
give every slot its content back, in whatever order they stand, decode to the record. So a record
round trips if each of its slots does.
-/

namespace NavigationBar.Decode

/-- A field of a record type, with what a record holds under it and how that is written. -/
structure Slot (α : Type) where
  /-- What a record holds under the field. -/
  Content : Type
  /-- The key of the field. -/
  key : String
  /-- Decodes the field's value. -/
  decode : Decoder Content
  /-- What a record holds. -/
  get : α → Content
  /-- A record that holds something else. -/
  keep : α → Content → α
  /-- The value that is written, if one is. -/
  write : Content → Option Json
  /-- When the field may be left out. -/
  presence : Presence := .optional

namespace Slot

variable {α β : Type}

/-- A slot that is always written. -/
def always (key : String) (d : Decoder β) (write : β → Json) (get : α → β) (keep : α → β → α) :
    Slot α where
  Content := β
  key := key
  decode := d
  get := get
  keep := keep
  write := fun b => some (write b)

/-- A slot that is written when it holds something. -/
def optional (key : String) (d : Decoder β) (write : β → Json) (get : α → Option β)
    (keep : α → Option β → α) : Slot α where
  Content := Option β
  key := key
  decode := nullable d
  get := get
  keep := keep
  write := Option.map write

/-- A slot that keeps a value as it was written. -/
def raw (key : String) (get : α → Option Json) (keep : α → Option Json → α) : Slot α where
  Content := Option Json
  key := key
  decode := nullable value
  get := get
  keep := keep
  write := id

/-- The same slot, to be left out in fewer places. -/
def needed (s : Slot α) (presence : Presence) : Slot α :=
  { s with presence := presence }

/-- The field of a slot. -/
def field (s : Slot α) : Field α :=
  (Field.of s.key s.decode s.keep).needed s.presence

/-- The members that are written of a record. -/
def members (slots : List (Slot α)) (x : α) : Fields :=
  slots.filterMap fun s => (s.write (s.get x)).map fun v => (s.key, v)

theorem keys_members_sublist (slots : List (Slot α)) (x : α) :
    ((members slots x).map Prod.fst).Sublist (slots.map key) := by
  induction slots with
  | nil => exact List.Sublist.slnil
  | cons s slots ih =>
    rw [members, List.filterMap_cons]
    cases s.write (s.get x) with
    | none => exact ih.cons s.key
    | some v => exact ih.cons_cons s.key

theorem lookup_members {slots : List (Slot α)} (hkeys : (slots.map key).Nodup) {s : Slot α}
    (hs : s ∈ slots) (x : α) : (members slots x).lookup s.key = s.write (s.get x) := by
  induction slots with
  | nil => cases hs
  | cons t slots ih =>
    obtain ⟨hnotin, hrest⟩ := List.nodup_cons.mp hkeys
    have hcons : members (t :: slots) x
        = (((t.write (t.get x)).map fun v => (t.key, v)).toList) ++ members slots x := by
      rw [members, List.filterMap_cons]
      cases t.write (t.get x) <;> rfl
    rw [hcons]
    rcases List.mem_cons.mp hs with rfl | hs
    · have hnone : (members slots x).lookup s.key = none :=
        Fields.lookup_eq_none fun hmem => hnotin ((keys_members_sublist slots x).subset hmem)
      cases hw : s.write (s.get x) with
      | none => exact hnone
      | some v => exact (Fields.lookup_cons_ite _ _ _).trans (if_pos rfl)
    · have hne : s.key ≠ t.key := fun heq => hnotin (heq ▸ List.mem_map_of_mem hs)
      cases t.write (t.get x) with
      | none => exact ih hrest hs
      | some v => exact (Fields.lookup_cons_ite _ _ _).trans ((if_neg hne).trans (ih hrest hs))

/-- Some members give a slot the content that a record has there. -/
def Restores (s : Slot α) (o : Origin) (ms : Fields) (initial x : α) : Prop :=
  match ms.lookup s.key with
  | some v => s.decode o v = .ok (s.get x)
  | none => s.presence ≠ .required ∧ s.get x = s.get initial

/-- What a slot's decoder yields is written as a value that decodes to it, or is not written and is
what the slot holds initially. -/
def RoundTrips (s : Slot α) (initial : α) : Prop :=
  ∀ b, Yields s.decode b →
    match s.write b with
    | some v => v.Fits ∧ ∀ o, s.decode o v.sorted = .ok b
    | none => s.presence ≠ .required ∧ b = s.get initial

theorem Restores.decode {s : Slot α} {o : Origin} {ms : Fields} {initial x : α}
    (h : s.Restores o ms initial x) {v : Json} (hv : ms.lookup s.key = some v) :
    s.decode o v = .ok (s.get x) := by
  rw [Restores, hv] at h
  exact h

/-- Members give a slot one content. -/
theorem Restores.unique {s : Slot α} {o : Origin} {ms : Fields} {initial x y : α}
    (hx : s.Restores o ms initial x) (hy : s.Restores o ms initial y) : s.get x = s.get y := by
  rw [Restores] at hx hy
  cases hlookup : ms.lookup s.key with
  | some v =>
    rw [hlookup] at hx hy
    exact Except.ok.inj (hx.symm.trans hy)
  | none =>
    rw [hlookup] at hx hy
    exact hx.2.trans hy.2.symm

/-- What the members of a well-formed object restore was decoded from some value. -/
theorem Restores.yields {s : Slot α} {o : Origin} {ms : Fields} {initial x : α}
    (h : s.Restores o ms initial x) (hms : (Json.object ms).WellFormed)
    (hinitial : Yields s.decode (s.get initial)) : Yields s.decode (s.get x) := by
  rw [Restores] at h
  cases hlookup : ms.lookup s.key with
  | some v =>
    rw [hlookup] at h
    exact ⟨o, v, hms.of_lookup hlookup, h⟩
  | none =>
    rw [hlookup] at h
    exact h.2.symm ▸ hinitial

theorem Restores.get {s : Slot α} {o : Origin} {ms : Fields} {initial x : α}
    (h : s.Restores o ms initial x) :
    (if (ms.lookup s.key).isSome then s.get x else s.get initial) = s.get x := by
  rw [Restores] at h
  cases hlookup : ms.lookup s.key with
  | some v => rfl
  | none =>
    rw [hlookup] at h
    exact h.2.symm

/-- What is written of a slot's content restores it. -/
theorem RoundTrips.restores {s : Slot α} {initial x : α} (h : s.RoundTrips initial)
    (hx : Yields s.decode (s.get x)) (o : Origin) {ms : Fields}
    (hms : ms.lookup s.key = (s.write (s.get x)).map Json.sorted) :
    s.Restores o ms initial x := by
  have hs := h (s.get x) hx
  rw [Restores, hms]
  cases hw : s.write (s.get x) with
  | none =>
    rw [hw] at hs
    exact hs
  | some v =>
    rw [hw] at hs
    exact hs.2 o

/-- The integers that are written of a record fit. -/
theorem RoundTrips.fits {slots : List (Slot α)} {initial x : α}
    (hslots : ∀ s ∈ slots, s.RoundTrips initial) (hx : ∀ s ∈ slots, Yields s.decode (s.get x)) :
    ∀ p ∈ members slots x, p.2.Fits := by
  intro p hp
  obtain ⟨s, hs, hw⟩ := List.mem_filterMap.mp hp
  obtain ⟨v, hv, rfl⟩ := Option.map_eq_some_iff.mp hw
  have hs' := hslots s hs (s.get x) (hx s hs)
  rw [hv] at hs'
  exact hs'.1

end Slot

/-- Some slots describe a record type: they are its fields, a record is determined by what they
hold, each can be changed alone, and each holds initially what its decoder yields. -/
structure Describes {α : Type} (slots : List (Slot α)) (r : Record α) : Prop where
  /-- The slots are the fields. -/
  fields_eq : r.fields = slots.map Slot.field
  /-- No two have one key. -/
  keys_nodup : (slots.map Slot.key).Nodup
  /-- What is kept is held. -/
  get_keep : ∀ s ∈ slots, ∀ x b, s.get (s.keep x b) = b
  /-- Keeping something in one slot leaves the others alone. -/
  get_keep_other : ∀ s ∈ slots, ∀ t ∈ slots, s.key ≠ t.key → ∀ x b, t.get (s.keep x b) = t.get x
  /-- Records that hold the same are the same. -/
  ext : ∀ x y, (∀ s ∈ slots, s.get x = s.get y) → x = y
  /-- The initial contents are decoded from some values. -/
  initial : ∀ s ∈ slots, Yields s.decode (s.get r.initial)

namespace Describes

variable {α : Type} {slots : List (Slot α)} {r : Record α}

theorem eq_of_key_eq (h : Describes slots r) {s t : Slot α} (hs : s ∈ slots) (ht : t ∈ slots)
    (hkey : s.key = t.key) : s = t :=
  List.inj_on_of_nodup_map h.keys_nodup hs ht hkey

theorem exists_of_field? (h : Describes slots r) {k : String} {f : Field α}
    (hf : r.field? k = some f) : ∃ s ∈ slots, f = s.field ∧ s.key = k := by
  unfold Record.field? at hf
  have hmem := List.mem_of_find?_eq_some hf
  rw [h.fields_eq] at hmem
  obtain ⟨s, hs, rfl⟩ := List.mem_map.mp hmem
  have hkey := List.find?_some hf
  exact ⟨s, hs, rfl, beq_iff_eq.mp hkey⟩

theorem field?_key (h : Describes slots r) {s : Slot α} (hs : s ∈ slots) :
    r.field? s.key = some s.field := by
  cases hf : r.field? s.key with
  | none =>
    have hnone := List.find?_eq_none.mp hf s.field (h.fields_eq ▸ List.mem_map_of_mem hs)
    exact absurd (beq_self_eq_true s.key) hnone
  | some f =>
    obtain ⟨t, ht, rfl, hkey⟩ := h.exists_of_field? hf
    rw [h.eq_of_key_eq ht hs hkey]

theorem key_ne_of_field?_eq_none {k : String} (h : Describes slots r) (hf : r.field? k = none)
    {s : Slot α} (hs : s ∈ slots) : s.key ≠ k := by
  rintro rfl
  rw [h.field?_key hs] at hf
  cases hf

/-! ## What decoding gives -/

/-- Every slot of a record holds what its decoder yields. -/
def Yielded (slots : List (Slot α)) (x : α) : Prop :=
  ∀ s ∈ slots, Yields s.decode (s.get x)

theorem yielded_put (h : Describes slots r) {s : Slot α} (hs : s ∈ slots) {o : Origin} {x y : α}
    {v : Json} (hv : v.WellFormed) (hx : Yielded slots x) (hput : s.field.put o x v = .ok y) :
    Yielded slots y := by
  change (s.decode o v).map (s.keep x) = .ok y at hput
  cases hread : s.decode o v with
  | error e => rw [hread] at hput; cases hput
  | ok b =>
    rw [hread] at hput
    cases hput
    intro t ht
    by_cases hkey : s.key = t.key
    · obtain rfl := h.eq_of_key_eq hs ht hkey
      rw [h.get_keep s hs]
      exact ⟨o, v, hv, hread⟩
    · rw [h.get_keep_other s hs t ht hkey]
      exact hx t ht

theorem yielded_putAll (h : Describes slots r) {o : Origin} {ms : Fields} {x y : α}
    (hms : ∀ p ∈ ms, p.2.WellFormed) (hx : Yielded slots x) (hput : r.putAll o x ms = .ok y) :
    Yielded slots y := by
  induction ms generalizing x with
  | nil =>
    cases hput
    exact hx
  | cons p ms ih =>
    obtain ⟨k, v⟩ := p
    have hrest : ∀ p ∈ ms, p.2.WellFormed := fun p hp => hms p (List.mem_cons_of_mem _ hp)
    rw [Record.putAll, List.foldlM_cons] at hput
    cases hf : r.field? k with
    | none =>
      simp only [hf] at hput
      exact ih hrest hx hput
    | some f =>
      obtain ⟨s, hs, rfl, -⟩ := h.exists_of_field? hf
      simp only [hf] at hput
      cases hread : s.field.put o x v with
      | error e => rw [hread] at hput; cases hput
      | ok z =>
        rw [hread] at hput
        exact ih hrest (h.yielded_put hs (hms (k, v) List.mem_cons_self) hx hread) hput

theorem yielded_putItems (h : Describes slots r) {o : Origin} {expected : String} {index : Nat}
    {fs : List (Field α)} (hfs : fs ⊆ slots.map Slot.field) {items rest : List Json} {x y : α}
    (hitems : ∀ v ∈ items, v.WellFormed) (hx : Yielded slots x)
    (hput : Record.putItems o expected index x fs items = .ok (y, rest)) : Yielded slots y := by
  induction fs generalizing x items index with
  | nil =>
    cases hput
    exact hx
  | cons f fs ih =>
    have hfs' : fs ⊆ slots.map Slot.field := fun g hg => hfs (List.mem_cons_of_mem _ hg)
    cases items with
    | nil =>
      unfold Record.putItems at hput
      split at hput
      · cases hput
      · exact ih hfs' hitems hx hput
    | cons v items =>
      obtain ⟨s, hs, rfl⟩ := List.mem_map.mp (hfs List.mem_cons_self)
      unfold Record.putItems at hput
      cases hread : s.field.put o x v with
      | error e => rw [hread] at hput; cases hput
      | ok z =>
        rw [hread] at hput
        have hz := h.yielded_put hs (hitems v List.mem_cons_self) hx hread
        exact ih hfs' (fun w hw => hitems w (List.mem_cons_of_mem _ hw)) hz hput

theorem yielded_ofMembers (h : Describes slots r) {o : Origin} {ms : Fields} {x : α}
    (hms : ∀ p ∈ ms, p.2.WellFormed) (hx : r.ofMembers o ms = .ok x) : Yielded slots x := by
  unfold Record.ofMembers at hx
  cases hput : r.putAll o r.initial ms with
  | error e => rw [hput] at hx; cases hx
  | ok y =>
    rw [hput] at hx
    cases hmissing : r.missing? ms with
    | some f => simp only [bind, Except.bind, hmissing] at hx; cases hx
    | none =>
      simp only [bind, Except.bind, hmissing] at hx
      cases hx
      exact h.yielded_putAll hms h.initial hput

/-- A decoded record, from members or from a list of values, holds in every slot what the slot's
decoder yields. -/
theorem yielded (h : Describes slots r) {x : α} (hx : Yields r.decode x) : Yielded slots x := by
  obtain ⟨o, v, hv, hread⟩ := hx
  cases hv with
  | object ms ascending each => exact h.yielded_ofMembers each hread
  | array items each =>
    change r.ofItems _ o items = .ok x at hread
    unfold Record.ofItems at hread
    cases hput : Record.putItems o (("struct " ++ r.name) ++ " with " ++
        Record.counted r.fields.length) 0 r.initial r.fields items with
    | error e => simp only [bind, Except.bind, hput] at hread; cases hread
    | ok p =>
      obtain ⟨y, rest⟩ := p
      have hy := h.yielded_putItems (h.fields_eq ▸ List.Subset.refl _) each h.initial hput
      simp only [bind, Except.bind, hput] at hread
      split at hread
      · cases hread
        exact hy
      · cases o <;> cases hread
  | null | bool | int | float | string => cases hread

/-- Of members with distinct keys, every slot reads the one under its key and no other. -/
theorem reads_putAll (h : Describes slots r) {o : Origin} {ms : Fields} (hms : ms.Distinct)
    {x y : α} (hput : r.putAll o x ms = .ok y) : ∀ s ∈ slots,
      match ms.lookup s.key with
      | some v => s.decode o v = .ok (s.get y)
      | none => s.get y = s.get x := by
  intro s hs
  refine foldlM_reads s.key s.get (s.decode o) ?_ ?_ hms hput
  · intro x v y hstep
    simp only [h.field?_key hs] at hstep
    obtain ⟨b, hb, rfl⟩ := map_eq_ok.mp hstep
    rw [hb, h.get_keep s hs]
  · intro x p y hp hstep
    cases hf : r.field? p.1 with
    | none =>
      simp only [hf] at hstep
      exact congrArg s.get (Except.ok.inj hstep).symm
    | some f =>
      obtain ⟨t, ht, rfl, hkey⟩ := h.exists_of_field? hf
      simp only [hf] at hstep
      obtain ⟨b, -, rfl⟩ := map_eq_ok.mp hstep
      exact h.get_keep_other t ht s hs (hkey ▸ hp) x b

/-- The members that a record is decoded from restore every slot of it. -/
theorem restores_of_ofMembers (h : Describes slots r) {o : Origin} {ms : Fields} (hms : ms.Distinct)
    {x : α} (hx : r.ofMembers o ms = .ok x) : ∀ s ∈ slots, s.Restores o ms r.initial x := by
  obtain ⟨hput, hmissing⟩ := Record.ofMembers_eq_ok_iff.mp hx
  intro s hs
  have hread := h.reads_putAll hms hput s hs
  rw [Slot.Restores]
  cases hlookup : ms.lookup s.key with
  | some v =>
    rw [hlookup] at hread
    exact hread
  | none =>
    rw [hlookup] at hread
    refine ⟨fun hrequired => ?_, hread⟩
    have hpresent := List.find?_eq_none.mp hmissing s.field (h.fields_eq ▸ List.mem_map_of_mem hs)
    simp [Slot.field, Field.needed, Field.of, Fields.has, hrequired, hlookup] at hpresent

/-! ## Decoding what is written -/

/-- Members with distinct keys put into every slot that they name what it is to hold, and leave the
others alone. -/
theorem exists_putAll (h : Describes slots r) {o : Origin} {ms : Fields} (hms : ms.Distinct)
    (x y : α) (hread : ∀ s ∈ slots, ∀ v, ms.lookup s.key = some v → s.decode o v = .ok (s.get x)) :
    ∃ z, r.putAll o y ms = .ok z ∧
      ∀ s ∈ slots, s.get z = if (ms.lookup s.key).isSome then s.get x else s.get y := by
  induction ms generalizing y with
  | nil => exact ⟨y, rfl, fun s _ => rfl⟩
  | cons p ms ih =>
    obtain ⟨k, v⟩ := p
    obtain ⟨hnotin, hrest⟩ := List.nodup_cons.mp hms
    have hnone : ms.lookup k = none := Fields.lookup_eq_none hnotin
    have htail : ∀ s ∈ slots, ∀ w, ms.lookup s.key = some w → s.decode o w = .ok (s.get x) := by
      intro s hs w hw
      refine hread s hs w ?_
      have hne : s.key ≠ k := by
        rintro hk
        rw [hk, hnone] at hw
        cases hw
      rw [Fields.lookup_cons_ite, if_neg hne]
      exact hw
    cases hf : r.field? k with
    | none =>
      obtain ⟨z, hput, hz⟩ := ih hrest y htail
      refine ⟨z, ?_, fun s hs => ?_⟩
      · rw [Record.putAll, List.foldlM_cons]
        simp only [hf]
        exact hput
      · rw [hz s hs, Fields.lookup_cons_ite, if_neg (h.key_ne_of_field?_eq_none hf hs)]
    | some f =>
      obtain ⟨s, hs, rfl, rfl⟩ := h.exists_of_field? hf
      have hv : s.decode o v = .ok (s.get x) :=
        hread s hs v (by rw [Fields.lookup_cons_ite, if_pos rfl])
      obtain ⟨z, hput, hz⟩ := ih hrest (s.keep y (s.get x)) htail
      refine ⟨z, ?_, fun t ht => ?_⟩
      · have hstep : s.field.put o y v = .ok (s.keep y (s.get x)) := by
          change (s.decode o v).map (s.keep y) = _
          rw [hv]
          rfl
        rw [Record.putAll, List.foldlM_cons]
        simp only [hf, hstep]
        exact hput
      · rw [hz t ht, Fields.lookup_cons_ite]
        by_cases hkey : t.key = s.key
        · obtain rfl := h.eq_of_key_eq ht hs hkey
          rw [hnone, h.get_keep t ht]
          simp
        · rw [if_neg hkey, h.get_keep_other s hs t ht (Ne.symm hkey)]

/-- Members that restore every slot decode to the record. -/
theorem ofMembers_eq_ok (h : Describes slots r) {o : Origin} {ms : Fields} (hms : ms.Distinct)
    {x : α} (hrestores : ∀ s ∈ slots, s.Restores o ms r.initial x) :
    r.ofMembers o ms = .ok x := by
  obtain ⟨z, hput, hz⟩ :=
    h.exists_putAll hms x r.initial fun s hs v hv => (hrestores s hs).decode hv
  have hzx : z = x := h.ext z x fun s hs => (hz s hs).trans (hrestores s hs).get
  have hmissing : r.missing? ms = none := by
    rw [Record.missing?, List.find?_eq_none, h.fields_eq]
    intro f hf
    obtain ⟨s, hs, rfl⟩ := List.mem_map.mp hf
    have hs' := hrestores s hs
    rw [Slot.Restores] at hs'
    cases hlookup : ms.lookup s.key with
    | some v => simp [Slot.field, Field.needed, Field.of, Fields.has, hlookup]
    | none =>
      rw [hlookup] at hs'
      simp [Slot.field, Field.needed, hs'.1]
  rw [Record.ofMembers, hput, hzx]
  simp only [bind, Except.bind, hmissing]

/-! ## Round trips -/

theorem distinct_members (h : Describes slots r) (x : α) : (Slot.members slots x).Distinct :=
  h.keys_nodup.sublist (Slot.keys_members_sublist slots x)

theorem lookup_members (h : Describes slots r) {s : Slot α} (hs : s ∈ slots) (x : α) :
    (Slot.members slots x).lookup s.key = s.write (s.get x) :=
  Slot.lookup_members h.keys_nodup hs x

/-- What is written of a decoded record restores every slot. -/
theorem restores_sorted_members (h : Describes slots r)
    (hslots : ∀ s ∈ slots, s.RoundTrips r.initial) {x : α} (hx : Yielded slots x) (o : Origin) :
    ∀ s ∈ slots, s.Restores o (Fields.ofList (Json.sortedFields (Slot.members slots x)))
      r.initial x := by
  intro s hs
  refine (hslots s hs).restores (hx s hs) o ?_
  rw [Json.lookup_sorted (h.distinct_members x), h.lookup_members hs x]

/-- A record round trips if each of its slots does. -/
theorem roundTrips (h : Describes slots r) (hslots : ∀ s ∈ slots, s.RoundTrips r.initial) :
    RoundTrips r.decode fun x => .object (Slot.members slots x) := by
  constructor
  · intro x hx
    exact .object _ (Slot.RoundTrips.fits hslots (h.yielded hx))
  · intro x hx o
    exact h.ofMembers_eq_ok (Fields.ofList_ascending _).distinct
      (h.restores_sorted_members hslots (h.yielded hx) o)

end Describes

/-! ## Kinds of slots -/

namespace Slot

variable {α β : Type}

theorem always_roundTrips {d : Decoder β} {write : β → Json} (h : Decode.RoundTrips d write)
    (key : String) (get : α → β) (keep : α → β → α) (initial : α) :
    (always key d write get keep).RoundTrips initial :=
  fun b hb => ⟨h.fits b hb, h.again b hb⟩

theorem needed_roundTrips {d : Decoder β} {write : β → Json} (h : Decode.RoundTrips d write)
    (key : String) (get : α → β) (keep : α → β → α) (presence : Presence) (initial : α) :
    ((always key d write get keep).needed presence).RoundTrips initial :=
  always_roundTrips h key get keep initial

theorem yields_of_nullable {d : Decoder β} {b : β} (h : Yields (nullable d) (some b)) :
    ∃ o v, v ≠ .null ∧ v.WellFormed ∧ d o v = .ok b := by
  obtain ⟨o, v, hv, hread⟩ := h
  by_cases hnull : v = .null
  · subst hnull
    cases hread
  · refine ⟨o, v, hnull, hv, ?_⟩
    cases hd : d o v with
    | error e => cases v <;> simp_all [nullable, Except.map]
    | ok b' => cases v <;> simp_all [nullable, Except.map]

theorem nullable_of_ne_null {d : Decoder β} {o : Origin} {v : Json} (h : v ≠ .null) :
    nullable d o v = (d o v).map some := by
  cases v with
  | null => exact absurd rfl h
  | _ => rfl

/-- An optional slot whose decoder refuses the absent value. -/
theorem optional_roundTrips {d : Decoder β} {write : β → Json} (h : Decode.RoundTrips d write)
    (hnull : ∀ o b, d o .null ≠ .ok b) (key : String) (get : α → Option β)
    (keep : α → Option β → α) {initial : α} (hinitial : get initial = none) :
    (optional key d write get keep).RoundTrips initial := by
  intro b hb
  cases b with
  | none => exact ⟨Presence.noConfusion, hinitial.symm⟩
  | some b =>
    obtain ⟨o, v, -, hv, hread⟩ := yields_of_nullable hb
    have hyields : Yields d b := ⟨o, v, hv, hread⟩
    refine ⟨h.fits b hyields, fun o' => ?_⟩
    have hagain := h.again b hyields o'
    have hne : (write b).sorted ≠ .null := by
      intro heq
      rw [heq] at hagain
      exact hnull o' b hagain
    change nullable d o' (write b).sorted = .ok (some b)
    rw [nullable_of_ne_null hne, hagain]
    rfl

theorem raw_roundTrips (key : String) (get : α → Option Json) (keep : α → Option Json → α)
    {initial : α} (hinitial : get initial = none) : (raw key get keep).RoundTrips initial := by
  intro b hb
  cases b with
  | none => exact ⟨Presence.noConfusion, hinitial.symm⟩
  | some v =>
    obtain ⟨o, w, hne, hw, hread⟩ := yields_of_nullable hb
    obtain rfl : w = v := Except.ok.inj hread
    refine ⟨hw.fits, fun o' => ?_⟩
    change nullable value o' w.sorted = .ok (some w)
    rw [hw.sorted_eq, nullable_of_ne_null hne]
    rfl

theorem yields_none (d : Decoder β) : Yields (nullable d) none :=
  ⟨.document, .null, .null, rfl⟩

end Slot

end NavigationBar.Decode
