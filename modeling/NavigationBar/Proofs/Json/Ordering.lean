import Mathlib.Data.String.Basic
import NavigationBar.Decimal.Power
import NavigationBar.Json.Basic

/-!
# Values with ordered members

A value as a document holds it has its members in the order of their keys. Ordering the members of
any value gives such a value, keeps what stands under a key, and changes nothing once it is done.
-/

namespace NavigationBar

namespace Fields

/-- The members stand in strictly ascending order of their keys. -/
def Ascending (fields : Fields) : Prop :=
  fields.Pairwise fun p q => p.1 < q.1

/-- No two members have one key. -/
def Distinct (fields : Fields) : Prop :=
  (fields.map Prod.fst).Nodup

theorem Ascending.distinct {fields : Fields} (h : fields.Ascending) : fields.Distinct :=
  List.pairwise_map.mpr (h.imp fun hlt heq => (heq ▸ hlt).false)

theorem Ascending.nodup {fields : Fields} (h : fields.Ascending) : fields.Nodup :=
  h.imp fun hlt heq => (heq ▸ hlt).false

theorem lookup_cons_ite (p : String × Json) (rest : Fields) (k : String) :
    List.lookup k (p :: rest) = if k = p.1 then some p.2 else rest.lookup k := by
  rw [List.lookup_cons]
  by_cases hk : k = p.1
  · rw [if_pos hk, beq_iff_eq.mpr hk]
  · rw [if_neg hk, beq_eq_false_iff_ne.mpr hk]

theorem lookup_eq_none {fields : Fields} {k : String} (h : k ∉ fields.map Prod.fst) :
    fields.lookup k = none := by
  rw [List.lookup_eq_none_iff]
  intro p hp
  have hne : k ≠ p.1 := fun heq => h (heq ▸ List.mem_map_of_mem hp)
  exact bne_iff_ne.mpr hne

theorem mem_keys_iff {fields : Fields} {k : String} :
    k ∈ fields.map Prod.fst ↔ (fields.lookup k).isSome := by
  induction fields with
  | nil => simp
  | cons p rest ih =>
    rw [List.map_cons, List.mem_cons, ih, lookup_cons_ite]
    by_cases hk : k = p.1 <;> simp [hk]

theorem lookup_map_values {α β : Type} (f : α → β) (entries : List (String × α)) (k : String) :
    (entries.map fun p => (p.1, f p.2)).lookup k = (entries.lookup k).map f := by
  induction entries with
  | nil => rfl
  | cons p rest ih =>
    rw [List.map_cons, List.lookup_cons, List.lookup_cons, ih]
    cases k == p.1 <;> rfl

/-- What is kept of some members by their keys stands where it stood. -/
theorem lookup_filter_key {keep : String → Bool} {k : String} (hk : keep k = true)
    (fields : Fields) : (fields.filter fun p => keep p.1).lookup k = fields.lookup k := by
  induction fields with
  | nil => rfl
  | cons p rest ih =>
    rw [List.filter_cons]
    split
    · rw [lookup_cons_ite, lookup_cons_ite, ih]
    · rename_i hp
      have hne : k ≠ p.1 := fun heq => hp (heq ▸ hk)
      rw [lookup_cons_ite, if_neg hne, ih]

/-! ## Setting a member -/

theorem mem_set {key : String} {value : Json} {fields : Fields} {p : String × Json}
    (h : p ∈ fields.set key value) : p = (key, value) ∨ p ∈ fields := by
  induction fields with
  | nil => exact Or.inl (List.mem_singleton.mp h)
  | cons q rest ih =>
    obtain ⟨k, v⟩ := q
    unfold set at h
    split at h
    · rcases List.mem_cons.mp h with h | h
      · exact Or.inl h
      · exact Or.inr (List.mem_cons_of_mem _ h)
    · split at h
      · rcases List.mem_cons.mp h with h | h
        · exact Or.inl h
        · exact Or.inr h
      · rcases List.mem_cons.mp h with h | h
        · exact Or.inr (h ▸ List.mem_cons_self)
        · rcases ih h with h | h
          · exact Or.inl h
          · exact Or.inr (List.mem_cons_of_mem _ h)

theorem lookup_set (fields : Fields) (key : String) (value : Json) (k : String) :
    (fields.set key value).lookup k = if k = key then some value else fields.lookup k := by
  induction fields with
  | nil => exact lookup_cons_ite (key, value) [] k
  | cons q rest ih =>
    obtain ⟨k', v⟩ := q
    unfold set
    by_cases hkey : key = k'
    · subst hkey
      rw [if_pos rfl, lookup_cons_ite, lookup_cons_ite]
      split <;> rfl
    · rw [if_neg hkey]
      by_cases hlt : key < k'
      · rw [if_pos hlt, lookup_cons_ite]
      · rw [if_neg hlt, lookup_cons_ite, lookup_cons_ite, ih]
        by_cases hk : k = k'
        · have hne : k ≠ key := fun h => hkey (h.symm.trans hk)
          rw [if_pos hk, if_neg hne, if_pos hk]
        · rw [if_neg hk, if_neg hk]

theorem Ascending.set {fields : Fields} (h : fields.Ascending) (key : String) (value : Json) :
    (fields.set key value).Ascending := by
  induction fields with
  | nil => exact List.pairwise_singleton _ _
  | cons q rest ih =>
    obtain ⟨k, v⟩ := q
    obtain ⟨hhead, hrest⟩ := List.pairwise_cons.mp h
    unfold Fields.set
    split
    · rename_i hkey
      exact List.pairwise_cons.mpr ⟨fun p hp => hkey ▸ hhead p hp, hrest⟩
    · split
      · rename_i hlt
        refine List.pairwise_cons.mpr ⟨fun p hp => ?_, h⟩
        rcases List.mem_cons.mp hp with rfl | hp
        · exact hlt
        · exact hlt.trans (hhead p hp)
      · rename_i hne hnlt
        have hgt : k < key := lt_of_le_of_ne (not_lt.mp hnlt) (Ne.symm hne)
        refine List.pairwise_cons.mpr ⟨fun p hp => ?_, ih hrest⟩
        rcases mem_set hp with rfl | hp
        · exact hgt
        · exact hhead p hp

/-- A key beyond all others goes to the end. -/
theorem set_of_forall_lt {fields : Fields} {key : String} (h : ∀ p ∈ fields, p.1 < key)
    (value : Json) : fields.set key value = fields ++ [(key, value)] := by
  induction fields with
  | nil => rfl
  | cons q rest ih =>
    obtain ⟨k, v⟩ := q
    have hlt : k < key := h (k, v) List.mem_cons_self
    have hrest := ih fun p hp => h p (List.mem_cons_of_mem _ hp)
    rw [set, if_neg (ne_of_gt hlt), if_neg hlt.not_gt, hrest, List.cons_append]

/-- Setting a new member splits the others into those before it and those after it, whatever its
value. -/
theorem exists_set_eq {fields : Fields} {key : String} (h : fields.lookup key = none) :
    ∃ before after : Fields, fields = before ++ after ∧
      ∀ value, fields.set key value = before ++ (key, value) :: after := by
  induction fields with
  | nil => exact ⟨[], [], rfl, fun value => rfl⟩
  | cons q rest ih =>
    obtain ⟨k, v⟩ := q
    rw [lookup_cons_ite] at h
    have hne : key ≠ k := by
      intro heq
      rw [if_pos heq] at h
      cases h
    rw [if_neg hne] at h
    by_cases hlt : key < k
    · refine ⟨[], (k, v) :: rest, rfl, fun value => ?_⟩
      rw [set, if_neg hne, if_pos hlt, List.nil_append]
    · obtain ⟨before, after, hfields, hset⟩ := ih h
      refine ⟨(k, v) :: before, after, by rw [hfields, List.cons_append], fun value => ?_⟩
      rw [set, if_neg hne, if_neg hlt, hset, List.cons_append]

/-! ## Taking a member away -/

theorem lookup_erase (fields : Fields) (key k : String) :
    (fields.erase key).lookup k = if k = key then none else fields.lookup k := by
  by_cases hk : k = key
  · rw [if_pos hk, lookup_eq_none]
    simp [erase, hk]
  · have hkeep : (k != key) = true := bne_iff_ne.mpr hk
    rw [if_neg hk]
    exact @lookup_filter_key (· != key) k hkeep fields

theorem Ascending.erase {fields : Fields} (h : fields.Ascending) (key : String) :
    (fields.erase key).Ascending :=
  h.filter _

/-! ## Members and what stands under their keys -/

theorem Distinct.lookup_eq_some_iff {fields : Fields} (h : fields.Distinct) {k : String}
    {v : Json} : fields.lookup k = some v ↔ (k, v) ∈ fields := by
  induction fields with
  | nil => simp
  | cons p rest ih =>
    obtain ⟨hnotin, hrest⟩ := List.nodup_cons.mp h
    rw [lookup_cons_ite, List.mem_cons]
    by_cases hk : k = p.1
    · have hother : (k, v) ∉ rest := fun hmem => hnotin (hk ▸ List.mem_map_of_mem hmem)
      rw [if_pos hk, Option.some_inj]
      constructor
      · rintro rfl
        exact .inl (Prod.ext hk rfl)
      · rintro (heq | hmem)
        · exact (congrArg Prod.snd heq).symm
        · exact absurd hmem hother
    · have hother : (k, v) ≠ p := fun heq => hk (congrArg Prod.fst heq)
      rw [if_neg hk, ih hrest]
      simp [hother]

theorem Ascending.ext {l m : Fields} (hl : l.Ascending) (hm : m.Ascending)
    (h : ∀ k, l.lookup k = m.lookup k) : l = m := by
  have hmem : ∀ p : String × Json, p ∈ l ↔ p ∈ m := by
    intro p
    rw [← hl.distinct.lookup_eq_some_iff, ← hm.distinct.lookup_eq_some_iff, h]
  have hperm : l.Perm m :=
    (List.perm_ext_iff_of_nodup hl.nodup hm.nodup).mpr hmem
  refine hperm.eq_of_pairwise ?_ hl hm
  intro p q hp hq hpq hqp
  exact absurd hqp hpq.not_gt

/-! ## Putting members in order -/

/-- Members set one after the other. -/
theorem ascending_foldl_set {acc : Fields} (hacc : acc.Ascending) (fields : Fields) :
    (fields.foldl (fun fields p => fields.set p.1 p.2) acc).Ascending := by
  induction fields generalizing acc with
  | nil => exact hacc
  | cons p rest ih => exact ih (hacc.set p.1 p.2)

theorem ofList_ascending (fields : Fields) : (ofList fields).Ascending :=
  ascending_foldl_set List.Pairwise.nil fields

theorem mem_foldl_set {acc fields : Fields} {p : String × Json}
    (h : p ∈ fields.foldl (fun fields p => fields.set p.1 p.2) acc) : p ∈ acc ∨ p ∈ fields := by
  induction fields generalizing acc with
  | nil => exact Or.inl h
  | cons q rest ih =>
    rcases ih h with h | h
    · rcases mem_set h with rfl | h
      · exact Or.inr List.mem_cons_self
      · exact Or.inl h
    · exact Or.inr (List.mem_cons_of_mem _ h)

theorem mem_of_mem_ofList {fields : Fields} {p : String × Json} (h : p ∈ ofList fields) :
    p ∈ fields := by
  rcases mem_foldl_set h with h | h
  · cases h
  · exact h

theorem lookup_foldl_set (acc : Fields) {fields : Fields} (h : fields.Distinct) (k : String) :
    (fields.foldl (fun fields p => fields.set p.1 p.2) acc).lookup k
      = (fields.lookup k).or (acc.lookup k) := by
  induction fields generalizing acc with
  | nil => rfl
  | cons p rest ih =>
    obtain ⟨k', v⟩ := p
    obtain ⟨hnotin, hrest⟩ := List.nodup_cons.mp h
    rw [List.foldl_cons, ih _ hrest, lookup_set, lookup_cons_ite]
    by_cases hk : k = k'
    · rw [hk, lookup_eq_none hnotin, if_pos rfl, if_pos rfl]
      rfl
    · rw [if_neg hk, if_neg hk]

/-- What stands under a key stays there when members with distinct keys are put in order. -/
theorem lookup_ofList {fields : Fields} (h : fields.Distinct) (k : String) :
    (ofList fields).lookup k = fields.lookup k := by
  have hfold := lookup_foldl_set [] h k
  rw [List.lookup_nil, Option.or_none] at hfold
  exact hfold

theorem foldl_set_eq_append (acc : Fields) {fields : Fields} (h : Ascending (acc ++ fields)) :
    fields.foldl (fun fields p => fields.set p.1 p.2) acc = acc ++ fields := by
  induction fields generalizing acc with
  | nil => exact (List.append_nil acc).symm
  | cons p rest ih =>
    have hlast : ∀ q ∈ acc, q.1 < p.1 := fun q hq =>
      (List.pairwise_append.mp h).2.2 q hq p List.mem_cons_self
    rw [List.append_cons] at h ⊢
    rw [List.foldl_cons, set_of_forall_lt hlast]
    exact ih _ h

/-- Members in order stay as they are. -/
theorem Ascending.ofList_eq {fields : Fields} (h : fields.Ascending) : ofList fields = fields :=
  foldl_set_eq_append [] h

end Fields

namespace Json

/-- A value as documents hold them: integers fit 64 bits, with or without a sign, and the members of
every object stand in strictly ascending order of their keys. -/
inductive WellFormed : Json → Prop where
  | null : WellFormed null
  | bool (b : Bool) : WellFormed (bool b)
  | int (i : Int) (low : -(twoTo 63 : Int) ≤ i) (high : i < twoTo 64) : WellFormed (int i)
  | float (x : Float) : WellFormed (float x)
  | string (s : String) : WellFormed (string s)
  | array (items : List Json) (each : ∀ v ∈ items, WellFormed v) : WellFormed (array items)
  | object (fields : Fields) (ascending : fields.Ascending) (each : ∀ p ∈ fields, WellFormed p.2) :
    WellFormed (object fields)

theorem WellFormed.ascending {fields : Fields} (h : (Json.object fields).WellFormed) :
    fields.Ascending := by
  cases h with
  | object _ ascending each => exact ascending

theorem WellFormed.of_lookup {fields : Fields} (h : (Json.object fields).WellFormed) {k : String}
    {v : Json} (hv : fields.lookup k = some v) : v.WellFormed := by
  cases h with
  | object _ ascending each =>
    exact each (k, v) (ascending.distinct.lookup_eq_some_iff.mp hv)

theorem WellFormed.set {fields : Fields} (h : (Json.object fields).WellFormed) (key : String)
    {v : Json} (hv : v.WellFormed) : (Json.object (fields.set key v)).WellFormed := by
  cases h with
  | object _ ascending each =>
    refine .object _ (ascending.set key v) fun p hp => ?_
    rcases Fields.mem_set hp with rfl | hp
    · exact hv
    · exact each p hp

theorem sortedItems_eq_map (items : List Json) : sortedItems items = items.map sorted := by
  induction items with
  | nil => rfl
  | cons v rest ih => rw [sortedItems, ih, List.map_cons]

theorem sortedFields_eq_map (fields : Fields) :
    sortedFields fields = fields.map fun p => (p.1, p.2.sorted) := by
  induction fields with
  | nil => rfl
  | cons p rest ih => rw [sortedFields, ih, List.map_cons]

theorem keys_sortedFields (fields : Fields) :
    (sortedFields fields).map Prod.fst = fields.map Prod.fst := by
  simp [sortedFields_eq_map]

theorem lookup_sortedFields (fields : Fields) (k : String) :
    (sortedFields fields).lookup k = (fields.lookup k).map sorted := by
  rw [sortedFields_eq_map, Fields.lookup_map_values]

/-- Members with distinct keys keep their values, each put in order, when they are put in order. -/
theorem lookup_sorted {fields : Fields} (h : fields.Distinct) (k : String) :
    (Fields.ofList (sortedFields fields)).lookup k = (fields.lookup k).map sorted := by
  have hdistinct : Fields.Distinct (sortedFields fields) := by
    rw [Fields.Distinct, keys_sortedFields]
    exact h
  rw [Fields.lookup_ofList hdistinct, lookup_sortedFields]

/-- A well-formed value is in order already. -/
theorem WellFormed.sorted_eq {v : Json} (h : v.WellFormed) : v.sorted = v := by
  induction h with
  | null | bool | int | float | string => rfl
  | array items each ih =>
    rw [sorted, sortedItems_eq_map, List.map_congr_left ih, List.map_id']
  | object fields ascending each ih =>
    have hfields : sortedFields fields = fields := by
      rw [sortedFields_eq_map]
      exact (List.map_congr_left fun p hp => by rw [ih p hp, id]).trans (List.map_id fields)
    rw [sorted, hfields, ascending.ofList_eq]

/-- Every integer of a value fits 64 bits, with or without a sign. -/
inductive Fits : Json → Prop where
  | null : Fits null
  | bool (b : Bool) : Fits (bool b)
  | int (i : Int) (low : -(twoTo 63 : Int) ≤ i) (high : i < twoTo 64) : Fits (int i)
  | float (x : Float) : Fits (float x)
  | string (s : String) : Fits (string s)
  | array (items : List Json) (each : ∀ v ∈ items, Fits v) : Fits (array items)
  | object (fields : Fields) (each : ∀ p ∈ fields, Fits p.2) : Fits (object fields)

theorem WellFormed.fits {v : Json} (h : v.WellFormed) : v.Fits := by
  induction h with
  | null => exact .null
  | bool b => exact .bool b
  | int i low high => exact .int i low high
  | float x => exact .float x
  | string s => exact .string s
  | array items each ih => exact .array items ih
  | object fields ascending each ih => exact .object fields ih

/-- Put in order, a value whose integers fit is as documents hold it. -/
theorem Fits.wellFormed_sorted {v : Json} (h : v.Fits) : v.sorted.WellFormed := by
  induction h with
  | null => exact .null
  | bool b => exact .bool b
  | int i low high => exact .int i low high
  | float x => exact .float x
  | string s => exact .string s
  | array items each ih =>
    rw [sorted, sortedItems_eq_map]
    refine .array _ fun v hv => ?_
    obtain ⟨w, hw, rfl⟩ := List.mem_map.mp hv
    exact ih w hw
  | object fields each ih =>
    rw [sorted]
    refine .object _ (Fields.ofList_ascending _) fun p hp => ?_
    have hmem := Fields.mem_of_mem_ofList hp
    rw [sortedFields_eq_map] at hmem
    obtain ⟨q, hq, rfl⟩ := List.mem_map.mp hmem
    exact ih q hq

end Json

end NavigationBar
