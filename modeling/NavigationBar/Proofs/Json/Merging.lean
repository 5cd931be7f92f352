import NavigationBar.Json.Merge
import NavigationBar.Proofs.Json.Ordering

/-!
# What merging makes of a document

A merged document is looked at along paths of keys, each into the object that is found at those
before it. Where the overlay holds anything but `null`, the merged document holds what the overlay
holds there, laid over what the base holds. A `null` takes a key away from an object of the base;
where the base has no object, that of the overlay is taken over as it is, with every `null` in it.
-/

namespace NavigationBar

namespace Json

/-- What a value holds at a path of keys. -/
def member? : Json → List String → Option Json
  | v, [] => some v
  | object fields, k :: path => (fields.lookup k).bind fun v => v.member? path
  | _, _ :: _ => none

/-- Whether a value is an object. -/
def isObject : Json → Bool
  | object _ => true
  | _ => false

/-- Whether a value holds an object at a path of keys. -/
def holdsObject (v : Json) (path : List String) : Bool :=
  (v.member? path).any isObject

/-! ## Paths -/

theorem member?_nil (v : Json) : v.member? [] = some v := by
  cases v <;> rfl

theorem member?_object (fields : Fields) (k : String) (path : List String) :
    (object fields).member? (k :: path) = (fields.lookup k).bind fun v => v.member? path := rfl

theorem member?_of_not_object {v : Json} (h : v.isObject = false) (k : String)
    (path : List String) : v.member? (k :: path) = none := by
  cases v with
  | object fields => cases h
  | _ => rfl

theorem member?_append (v : Json) (path rest : List String) :
    v.member? (path ++ rest) = (v.member? path).bind fun w => w.member? rest := by
  induction path generalizing v with
  | nil => rw [List.nil_append, member?_nil, Option.bind_some]
  | cons k path ih =>
    cases v with
    | object fields =>
      rw [List.cons_append, member?_object, member?_object]
      cases fields.lookup k with
      | none => rfl
      | some w => exact ih w
    | _ => rfl

theorem isObject_of_member? {v w : Json} {k : String} {path : List String}
    (h : v.member? (k :: path) = some w) : v.isObject = true := by
  by_contra hv
  rw [member?_of_not_object (Bool.eq_false_iff.mpr hv)] at h
  cases h

theorem exists_fields {v : Json} (h : v.isObject = true) : ∃ fields, v = object fields := by
  cases v with
  | object fields => exact ⟨fields, rfl⟩
  | _ => cases h

/-- A value under a key stands in an object. -/
theorem holdsObject_of_member? {v w : Json} {path : List String} {key : String}
    (h : v.member? (path ++ [key]) = some w) : v.holdsObject path = true := by
  rw [member?_append, Option.bind_eq_some_iff] at h
  obtain ⟨around, haround, hkey⟩ := h
  rw [holdsObject, haround]
  exact isObject_of_member? hkey

theorem null_holdsObject (path : List String) : null.holdsObject path = false := by
  cases path <;> rfl

/-! ## Merging, key by key -/

theorem null_merge (v : Json) : null.merge v = v := by
  cases v <;> rfl

theorem merge_of_not_object {base : Json} (h : base.isObject = false) (o : Fields) :
    base.merge (object o) = object o := by
  cases base with
  | object b => cases h
  | _ => rfl

theorem merge_object (b o : Fields) : (object b).merge (object o) = object (mergeFields b o) := rfl

/-- The value that is set under a key of the base where the overlay holds one. -/
theorem mergeFields_cons_of_ne_null (b : Fields) (k : String) {v : Json} (hv : v ≠ null)
    (rest : Fields) : mergeFields b ((k, v) :: rest) =
      mergeFields (b.set k (((b.lookup k).getD null).merge v)) rest := by
  cases v with
  | null => exact absurd rfl hv
  | object o =>
    rw [mergeFields]
    unfold Fields.get?
    cases hb : b.lookup k with
    | none => rfl
    | some w => cases w <;> rfl
  | bool | int | float | string | array => simp [mergeFields, merge]

/-- What a merged object holds under a key is what the overlay holds there, laid over what the base
holds, or what the base holds alone. -/
theorem lookup_mergeFields {o : Fields} (ho : o.Distinct) (b : Fields) (k : String) :
    (mergeFields b o).lookup k =
      match o.lookup k with
      | none => b.lookup k
      | some null => none
      | some v => some (((b.lookup k).getD null).merge v) := by
  induction o generalizing b with
  | nil => rw [mergeFields, List.lookup_nil]
  | cons p rest ih =>
    obtain ⟨k', v⟩ := p
    obtain ⟨hnotin, hrest⟩ := List.nodup_cons.mp ho
    have hnone : rest.lookup k' = none := Fields.lookup_eq_none hnotin
    rw [Fields.lookup_cons_ite]
    by_cases hv : v = null
    · subst hv
      rw [mergeFields, ih hrest, Fields.lookup_erase]
      by_cases hk : k = k'
      · subst hk
        rw [hnone, if_pos rfl, if_pos rfl]
      · rw [if_neg hk, if_neg hk]
    · rw [mergeFields_cons_of_ne_null b k' hv, ih hrest, Fields.lookup_set]
      by_cases hk : k = k'
      · subst hk
        rw [hnone, if_pos rfl, if_pos rfl]
        cases v with
        | null => exact absurd rfl hv
        | _ => rfl
      · rw [if_neg hk, if_neg hk]

theorem lookup_mergeFields_of_ne_null {o : Fields} (ho : o.Distinct) (b : Fields) {k : String}
    {v : Json} (h : o.lookup k = some v) (hv : v ≠ null) :
    (mergeFields b o).lookup k = some (((b.lookup k).getD null).merge v) := by
  rw [lookup_mergeFields ho, h]
  cases v with
  | null => exact absurd rfl hv
  | _ => rfl

theorem lookup_mergeFields_of_null {o : Fields} (ho : o.Distinct) (b : Fields) {k : String}
    (h : o.lookup k = some null) : (mergeFields b o).lookup k = none := by
  rw [lookup_mergeFields ho, h]

theorem ascending_mergeFields {b : Fields} (hb : b.Ascending) (o : Fields) :
    (mergeFields b o).Ascending := by
  induction o generalizing b with
  | nil => rwa [mergeFields]
  | cons p rest ih =>
    obtain ⟨k, v⟩ := p
    by_cases hv : v = null
    · subst hv
      rw [mergeFields]
      exact ih (hb.erase k)
    · rw [mergeFields_cons_of_ne_null b k hv]
      exact ih (hb.set k _)

/-- Merging makes a document of documents. -/
theorem WellFormed.merge {base overlay : Json} (hb : base.WellFormed) (ho : overlay.WellFormed) :
    (base.merge overlay).WellFormed := by
  induction ho generalizing base with
  | null => exact hb
  | bool b => exact .bool b
  | int i low high => exact .int i low high
  | float x => exact .float x
  | string s => exact .string s
  | array items each => exact .array items each
  | object o ascending each ih =>
    cases hb with
    | object b hascending heach =>
      have hmerged := ascending_mergeFields hascending o
      refine .object _ hmerged fun p hp => ?_
      have hlookup := hmerged.distinct.lookup_eq_some_iff.mpr hp
      have hbelow : ((b.lookup p.1).getD Json.null).WellFormed := by
        cases hbk : b.lookup p.1 with
        | none => exact .null
        | some w => exact WellFormed.of_lookup (.object b hascending heach) hbk
      rw [lookup_mergeFields ascending.distinct] at hlookup
      split at hlookup
      · exact WellFormed.of_lookup (.object b hascending heach) hlookup
      · cases hlookup
      · rename_i v _ hv
        have hmem := ascending.distinct.lookup_eq_some_iff.mp hv
        rw [← Option.some.inj hlookup]
        exact ih _ hmem hbelow
    | null | bool | int | float | string | array =>
      exact .object o ascending each

/-! ## Merging, path by path -/

/-- Where the overlay holds anything but `null`, the merged document holds that, laid over what the
base holds there. -/
theorem member?_merge {overlay : Json} (ho : overlay.WellFormed) (base : Json)
    {path : List String} {v : Json} (h : overlay.member? path = some v) (hv : v ≠ null) :
    (base.merge overlay).member? path = some (((base.member? path).getD null).merge v) := by
  induction path generalizing base overlay with
  | nil =>
    rw [member?_nil] at h ⊢
    obtain rfl := Option.some.inj h
    rw [member?_nil]
    rfl
  | cons k path ih =>
    obtain ⟨o, rfl⟩ := exists_fields (isObject_of_member? h)
    have hwhole := h
    rw [member?_object, Option.bind_eq_some_iff] at h
    obtain ⟨w, hw, hpath⟩ := h
    by_cases hbase : base.isObject = true
    · obtain ⟨b, rfl⟩ := exists_fields hbase
      have hne : w ≠ null := by
        rintro rfl
        cases path with
        | nil => exact hv (Option.some.inj hpath).symm
        | cons k' path => cases hpath
      rw [merge_object, member?_object,
        lookup_mergeFields_of_ne_null ho.ascending.distinct b hw hne, Option.bind_some,
        ih (ho.of_lookup hw) _ hpath, member?_object]
      cases b.lookup k with
      | some below => rfl
      | none => cases path <;> rfl
    · have hno := Bool.eq_false_iff.mpr hbase
      rw [merge_of_not_object hno, hwhole, member?_of_not_object hno]
      exact congrArg some (null_merge v).symm

/-- A `null` of the overlay takes its key away if the base holds an object around it, and is taken
over otherwise. -/
theorem member?_merge_null {overlay : Json} (ho : overlay.WellFormed) (base : Json)
    {path : List String} {key : String} (h : overlay.member? (path ++ [key]) = some null) :
    (base.merge overlay).member? (path ++ [key]) =
      if base.holdsObject path then none else some null := by
  induction path generalizing base overlay with
  | nil =>
    obtain ⟨o, rfl⟩ := exists_fields (isObject_of_member? h)
    by_cases hbase : base.isObject = true
    · obtain ⟨b, rfl⟩ := exists_fields hbase
      have hkey : o.lookup key = some null := by
        rw [List.nil_append, member?_object, Option.bind_eq_some_iff] at h
        obtain ⟨w, hw, hnull⟩ := h
        rw [member?_nil] at hnull
        rw [hw, hnull]
      rw [merge_object, List.nil_append, member?_object,
        lookup_mergeFields_of_null ho.ascending.distinct b hkey]
      rfl
    · have hno := Bool.eq_false_iff.mpr hbase
      rw [merge_of_not_object hno, h]
      simp [holdsObject, member?_nil, hno]
  | cons k path ih =>
    obtain ⟨o, rfl⟩ := exists_fields (isObject_of_member? h)
    have hwhole := h
    rw [List.cons_append, member?_object, Option.bind_eq_some_iff] at h
    obtain ⟨w, hw, hpath⟩ := h
    by_cases hbase : base.isObject = true
    · obtain ⟨b, rfl⟩ := exists_fields hbase
      have hne : w ≠ null := by
        rintro rfl
        cases path <;> cases hpath
      have hholds : (object b).holdsObject (k :: path) =
          ((b.lookup k).getD null).holdsObject path := by
        rw [holdsObject, member?_object]
        cases b.lookup k with
        | some below => rfl
        | none => exact (null_holdsObject path).symm
      rw [merge_object, List.cons_append, member?_object,
        lookup_mergeFields_of_ne_null ho.ascending.distinct b hw hne, Option.bind_some,
        ih (ho.of_lookup hw) _ hpath, hholds]
    · have hno := Bool.eq_false_iff.mpr hbase
      rw [merge_of_not_object hno, hwhole, holdsObject, member?_of_not_object hno]
      rfl

/-- Where the overlay holds an object, the merged document holds one. -/
theorem holdsObject_merge {overlay : Json} (ho : overlay.WellFormed) (base : Json)
    {path : List String} (h : overlay.holdsObject path = true) :
    (base.merge overlay).holdsObject path = true := by
  obtain ⟨v, hv, hobject⟩ := (Option.any_eq_true _ _).mp h
  obtain ⟨o, rfl⟩ := exists_fields hobject
  rw [holdsObject, member?_merge ho base hv (by simp)]
  cases (base.member? path).getD null <;> rfl

/-! ## Merging once more -/

/-- Whether a value holds already what an overlay has to say: the same values at the same paths,
objects where there are objects, and nothing where there is a `null`. -/
def Carries (v overlay : Json) : Prop :=
  ∀ path w, overlay.member? path = some w →
    match w with
    | null => v.member? path = none
    | object _ => v.holdsObject path = true
    | w => v.member? path = some w

theorem Carries.of_lookup {b o : Fields} (h : (object b).Carries (object o)) {k : String}
    {v below : Json} (hv : o.lookup k = some v) (hbelow : b.lookup k = some below) :
    below.Carries v := by
  intro path w hw
  have hpath : (object o).member? (k :: path) = some w := by
    rw [member?_object, hv]
    exact hw
  have hcarries := h (k :: path) w hpath
  rw [holdsObject, member?_object, hbelow] at hcarries
  exact hcarries

theorem Carries.lookup_of_null {b o : Fields} (h : (object b).Carries (object o)) {k : String}
    (hk : o.lookup k = some null) : b.lookup k = none := by
  have hpath : (object o).member? [k] = some null := by
    rw [member?_object, hk]
    rfl
  have hnone := h [k] null hpath
  rw [member?_object, Option.bind_eq_none_iff] at hnone
  exact Option.eq_none_iff_forall_ne_some.mpr fun w hw => by simpa [member?_nil] using hnone w hw

theorem Carries.exists_lookup {b o : Fields} (h : (object b).Carries (object o)) {k : String}
    {v : Json} (hk : o.lookup k = some v) (hv : v ≠ null) : ∃ below, b.lookup k = some below := by
  have hpath : (object o).member? [k] = some v := by
    rw [member?_object, hk]
    exact member?_nil v
  have hcarries := h [k] v hpath
  by_contra hnone
  have hlookup : b.lookup k = none :=
    Option.eq_none_iff_forall_ne_some.mpr fun w hw => hnone ⟨w, hw⟩
  rw [holdsObject, member?_object, hlookup] at hcarries
  cases v with
  | null => exact hv rfl
  | _ => cases hcarries

/-- An overlay whose content is there already changes nothing. -/
theorem Carries.merge_eq {base overlay : Json} (h : base.Carries overlay) (hb : base.WellFormed)
    (ho : overlay.WellFormed) : base.merge overlay = base := by
  induction ho generalizing base with
  | null => rfl
  | object o ascending each ih =>
    have hbase : base.isObject = true := by
      have hroot := h [] _ rfl
      rwa [holdsObject, member?_nil] at hroot
    obtain ⟨b, rfl⟩ := exists_fields hbase
    have hmerged := ascending_mergeFields hb.ascending o
    refine congrArg object (hmerged.ext hb.ascending fun k => ?_)
    cases hk : o.lookup k with
    | none => rw [lookup_mergeFields ascending.distinct, hk]
    | some v =>
      by_cases hv : v = null
      · subst hv
        rw [lookup_mergeFields_of_null ascending.distinct b hk, h.lookup_of_null hk]
      · obtain ⟨below, hbelow⟩ := h.exists_lookup hk hv
        have hmem := ascending.distinct.lookup_eq_some_iff.mp hk
        have hsame := ih (k, v) hmem (h.of_lookup hk hbelow) (hb.of_lookup hbelow)
        rw [lookup_mergeFields_of_ne_null ascending.distinct b hk hv, hbelow, Option.getD_some,
          hsame]
  | bool | int | float | string | array =>
    have hroot := h [] _ rfl
    rw [member?_nil] at hroot
    rw [Option.some.inj hroot]
    rfl

/-- A merged document carries the overlay if the base holds an object around every `null`. -/
theorem carries_merge {overlay : Json} (ho : overlay.WellFormed) (hnull : overlay ≠ null)
    (base : Json) (h : ∀ path key, overlay.member? (path ++ [key]) = some null →
      base.holdsObject path = true) : (base.merge overlay).Carries overlay := by
  intro path w hw
  cases w with
  | null =>
    rcases List.eq_nil_or_concat path with rfl | ⟨path, key, rfl⟩
    · rw [member?_nil] at hw
      exact absurd (Option.some.inj hw) hnull
    · rw [List.concat_eq_append] at hw ⊢
      change (base.merge overlay).member? _ = none
      rw [member?_merge_null ho base hw, if_pos (h path key hw)]
  | object o =>
    refine holdsObject_merge ho base ?_
    rw [holdsObject, hw]
    rfl
  | bool | int | float | string | array => exact member?_merge ho base hw nofun

/-- A `null` that an overlay holds under a key takes the key away where the base holds an object
around it, and stays in the merged document everywhere else. So the overlay has nothing to change
in the merged document exactly if the base holds an object around each `null`. If it has, it takes
all these keys away when it is merged once more, and then nothing is left for it to change. -/
theorem merge_null_iff (base overlay : Fields) (hb : (object base).WellFormed)
    (ho : (object overlay).WellFormed) :
    let once := (object base).merge (object overlay)
    let twice := once.merge (object overlay)
    (∀ path key, (object overlay).member? (path ++ [key]) = some null →
      once.member? (path ++ [key]) =
        (if (object base).holdsObject path then none else some null) ∧
      twice.member? (path ++ [key]) = none) ∧
    (twice = once ↔ ∀ path key, (object overlay).member? (path ++ [key]) = some null →
      (object base).holdsObject path = true) ∧
    twice.merge (object overlay) = twice := by
  intro once twice
  have honce : once.WellFormed := hb.merge ho
  -- The overlay holds objects all along the way to its `null`s, and so does the merged document.
  have hholds : ∀ path key, (object overlay).member? (path ++ [key]) = some null →
      once.holdsObject path = true := by
    intro path key h
    exact holdsObject_merge ho _ (holdsObject_of_member? h)
  have htwice : ∀ path key, (object overlay).member? (path ++ [key]) = some null →
      twice.member? (path ++ [key]) = none := by
    intro path key h
    rw [member?_merge_null ho once h, if_pos (hholds path key h)]
  refine ⟨fun path key h => ⟨member?_merge_null ho _ h, htwice path key h⟩, ⟨?_, ?_⟩, ?_⟩
  · intro heq path key h
    have hnone := htwice path key h
    rw [heq, member?_merge_null ho _ h] at hnone
    by_contra hno
    rw [if_neg hno] at hnone
    cases hnone
  · intro h
    exact (carries_merge ho nofun _ h).merge_eq honce ho
  · exact (carries_merge ho nofun once hholds).merge_eq (honce.merge ho) ho

/-- Of two `null`s, one below an object of the base and one below nothing, the first takes its key
away at once and the second when the overlay is merged once more. -/
theorem merge_null_iff_in_turn :
    let base : Fields := [("a", .object [("b", .bool true), ("c", .bool true)])]
    let overlay : Fields := [("a", .object [("b", .null)]), ("d", .object [("e", .null)])]
    let once := (object base).merge (object overlay)
    let twice := once.merge (object overlay)
    (object base).WellFormed ∧ (object overlay).WellFormed ∧
    (object overlay).member? ["a", "b"] = some null ∧ once.member? ["a", "b"] = none ∧
    (object overlay).member? ["d", "e"] = some null ∧ once.member? ["d", "e"] = some null ∧
    twice.member? ["d", "e"] = none ∧ twice ≠ once ∧ twice.merge (object overlay) = twice := by
  intro base overlay once twice
  have hbc : "b" < "c" := by decide
  have had : "a" < "d" := by decide
  have hb : (object base).WellFormed := by
    have hinner : (object [("b", bool true), ("c", bool true)]).WellFormed :=
      .object _ (by simpa [Fields.Ascending] using hbc) (by simp [WellFormed.bool])
    exact .object _ (List.pairwise_singleton _ _) (by simpa [base] using hinner)
  have ho : (object overlay).WellFormed := by
    have hnull : ∀ k, (object [(k, null)]).WellFormed := fun k =>
      .object _ (List.pairwise_singleton _ _) (by simp [WellFormed.null])
    exact .object _ (by simpa [overlay, Fields.Ascending] using had) (by simp [overlay, hnull])
  obtain ⟨hnull, hchange, hlast⟩ := merge_null_iff base overlay hb ho
  obtain ⟨hab, -⟩ := hnull ["a"] "b" rfl
  obtain ⟨hde, hde'⟩ := hnull ["d"] "e" rfl
  refine ⟨hb, ho, rfl, hab, rfl, hde, hde', ?_, hlast⟩
  intro heq
  exact absurd (hchange.mp heq ["d"] "e" rfl) nofun

/-- A `null` stays where the base holds no object around it, until the overlay is merged once more.
-/
theorem null_stays :
    let overlay : Json := .object [("a", .object [("b", .null)])]
    let once := (object []).merge overlay
    overlay.member? ["a", "b"] = some null ∧ once.member? ["a", "b"] = some null ∧
    (once.merge overlay).member? ["a", "b"] = none ∧ once.merge overlay ≠ once := by
  intro overlay once
  have honce : once = .object [("a", .object [("b", .null)])] := by
    simp [once, overlay, merge, mergeFields, Fields.get?, Fields.set]
  have htwice : once.merge overlay = .object [("a", .object [])] := by
    rw [honce]
    simp [overlay, merge, mergeFields, Fields.get?, Fields.set, Fields.erase]
  rw [htwice, honce]
  exact ⟨rfl, rfl, rfl, by simp⟩

end Json

end NavigationBar
