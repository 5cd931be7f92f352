import NavigationBar.Proofs.Json.Merging

/-!
# A merged document, path by path

What stands at a path of a merged document comes from one of the two documents, and from no third
place. A value of the overlay that is neither an object nor `null` stands there as it is. Where the
overlay ends at an object and does not go on, whatever the base has further down is left alone, be
it a value or nothing.
-/

namespace NavigationBar

namespace Json

variable {base overlay : Json}

/-! ## Where the overlay has a value -/

/-- A value that is no object takes the place of any other. -/
theorem merge_eq_of_not_object {v : Json} (hnull : v ≠ null) (hv : v.isObject = false)
    (below : Json) : below.merge v = v := by
  cases v with
  | null => exact absurd rfl hnull
  | object fields => cases hv
  | bool | int | float | string | array => rfl

/-! ## Where the overlay has nothing -/

/-- What a value holds below a key, if it holds an object there. -/
theorem exists_lookup_of_holdsObject {v : Json} {k : String} {path : List String}
    (h : v.holdsObject (k :: path) = true) :
    ∃ fields below, v = object fields ∧ fields.lookup k = some below ∧
      below.holdsObject path = true := by
  unfold holdsObject at h
  cases hv : v.isObject with
  | false =>
    rw [member?_of_not_object hv] at h
    cases h
  | true =>
    obtain ⟨fields, rfl⟩ := exists_fields hv
    rw [member?_object] at h
    cases hk : fields.lookup k with
    | none =>
      rw [hk] at h
      cases h
    | some below =>
      rw [hk] at h
      exact ⟨fields, below, rfl, hk, h⟩

theorem exists_fields_of_holdsObject_nil {v : Json} (h : v.holdsObject [] = true) :
    ∃ fields, v = object fields := by
  unfold holdsObject at h
  rw [member?_nil] at h
  exact exists_fields h

/-- Below a key that the overlay does not have, the base shows as it is, provided that it has an
object where the overlay has the one without the key. -/
theorem member?_merge_of_absent (ho : overlay.WellFormed) {path : List String} {key : String}
    (hover : overlay.holdsObject path = true) (habsent : overlay.member? (path ++ [key]) = none)
    (hbase : base.holdsObject path = true) (rest : List String) :
    (base.merge overlay).member? (path ++ key :: rest) = base.member? (path ++ key :: rest) := by
  -- Both documents are gone down along the path at once, object by object.
  induction path generalizing base overlay with
  | nil =>
    obtain ⟨o, rfl⟩ := exists_fields_of_holdsObject_nil hover
    obtain ⟨b, rfl⟩ := exists_fields_of_holdsObject_nil hbase
    have hkey : o.lookup key = none := by
      rw [List.nil_append, member?_object, Option.bind_eq_none_iff] at habsent
      by_contra hsome
      obtain ⟨v, hv⟩ := Option.ne_none_iff_exists'.mp hsome
      have hnone := habsent v hv
      rw [member?_nil] at hnone
      cases hnone
    have hmerged : (mergeFields b o).lookup key = b.lookup key := by
      rw [lookup_mergeFields ho.ascending.distinct, hkey]
    rw [List.nil_append, merge_object, member?_object, member?_object, hmerged]
  | cons k path ih =>
    obtain ⟨o, v, rfl, hv, hvobject⟩ := exists_lookup_of_holdsObject hover
    obtain ⟨b, below, rfl, hbelow, hbobject⟩ := exists_lookup_of_holdsObject hbase
    have hne : v ≠ null := by
      rintro rfl
      rw [null_holdsObject] at hvobject
      cases hvobject
    have hmerged : (mergeFields b o).lookup k = some (below.merge v) := by
      rw [lookup_mergeFields_of_ne_null ho.ascending.distinct b hv hne, hbelow, Option.getD_some]
    have hdeeper : v.member? (path ++ [key]) = none := by
      rw [List.cons_append, member?_object, hv] at habsent
      exact habsent
    have hsame := ih (ho.of_lookup hv) hvobject hdeeper hbobject
    rw [List.cons_append, merge_object, member?_object, member?_object, hmerged, hbelow]
    exact hsame

/-! ## Nothing new -/

/-- Nothing stands in a merged document that stands in neither of the two. -/
theorem present_of_merge (ho : overlay.WellFormed) {path : List String}
    (h : ((base.merge overlay).member? path).isSome = true) :
    (base.member? path).isSome = true ∨ (overlay.member? path).isSome = true := by
  induction path generalizing base overlay with
  | nil =>
    left
    rw [member?_nil]
    rfl
  | cons k path ih =>
    cases overlay with
    | null => exact Or.inl h
    | bool | int | float | string | array => exact Or.inr h
    | object o =>
      cases hbase : base.isObject with
      | false =>
        rw [merge_of_not_object hbase] at h
        exact Or.inr h
      | true =>
        obtain ⟨b, rfl⟩ := exists_fields hbase
        rw [merge_object, member?_object, lookup_mergeFields ho.ascending.distinct] at h
        rw [member?_object, member?_object]
        split at h
        · exact Or.inl h
        · cases h
        · rename_i v hv hk
          -- The values of both below the key were merged in turn.
          rw [Option.bind_some] at h
          rw [hk, Option.bind_some]
          rcases ih (ho.of_lookup hk) h with hb | ho
          · cases hlookup : b.lookup k with
            | some below =>
              rw [hlookup] at hb
              exact Or.inl hb
            | none =>
              rw [hlookup] at hb
              cases path with
              | nil =>
                right
                rw [member?_nil]
                rfl
              | cons k' path => cases hb
          · exact Or.inr ho

/-- A merged document reads as the overlay laid over the base. A list, a text, a number or a truth
value of the overlay stands at its path. Below an object of the overlay, at a key that this object
does not have, stands what the base has, if the base has an object in the same place. No other path
leads anywhere but those of the two documents. -/
theorem member?_merge_overlay_over_base (b o : Fields) (ho : (object o).WellFormed) :
    let merged := (object b).merge (object o)
    (∀ path v, (object o).member? path = some v → v ≠ null → v.isObject = false →
      merged.member? path = some v) ∧
    (∀ path key rest, (object o).holdsObject path = true →
      (object o).member? (path ++ [key]) = none → (object b).holdsObject path = true →
      merged.member? (path ++ key :: rest) = (object b).member? (path ++ key :: rest)) ∧
    (∀ path, (merged.member? path).isSome = true →
      ((object b).member? path).isSome = true ∨ ((object o).member? path).isSome = true) := by
  intro merged
  refine ⟨?_, ?_, ?_⟩
  · intro path v hv hnull hobject
    have hmerged := member?_merge ho (object b) hv hnull
    rw [merge_eq_of_not_object hnull hobject] at hmerged
    exact hmerged
  · intro path key rest hover habsent hbase
    exact member?_merge_of_absent ho hover habsent hbase rest
  · intro path hpresent
    exact present_of_merge ho hpresent

/-- A list takes the place of an object, an object that of a text, and a member beside them is left
alone. -/
theorem member?_merge_overlay_over_base_mixed :
    let b : Fields := [("a", .object [("x", .object [("y", .int 1)]), ("z", .bool true)]),
      ("b", .string "t")]
    let o : Fields := [("a", .object [("x", .array [])]), ("b", .object [("c", .int 2)])]
    let merged := (object b).merge (object o)
    (object o).WellFormed ∧
    merged.member? ["a", "x"] = some (.array []) ∧ merged.member? ["b", "c"] = some (.int 2) ∧
    (object o).holdsObject ["a"] = true ∧ (object o).member? ["a", "z"] = none ∧
    (object b).holdsObject ["a"] = true ∧ merged.member? ["a", "z"] = some (.bool true) ∧
    merged.member? ["a", "x", "w"] = none := by
  intro b o merged
  have hab : "a" < "b" := by decide
  have hone : ∀ k v, v.WellFormed → (object [(k, v)]).WellFormed := fun k v hv =>
    .object _ (List.pairwise_singleton _ _) (by simpa using hv)
  have ho : (object o).WellFormed := by
    have hlist := hone "x" (.array []) (.array [] (by simp))
    have hint := hone "c" (.int 2) (.int 2 (by decide) (by decide))
    exact .object _ (by simpa [o, Fields.Ascending] using hab) (by simp [o, hlist, hint])
  obtain ⟨hvalue, hbelow, hpresent⟩ := member?_merge_overlay_over_base b o ho
  have hlost : merged.member? ["a", "x", "w"] = none := by
    by_contra hsome
    rcases hpresent ["a", "x", "w"] (Option.isSome_iff_ne_none.mpr hsome) with h | h <;> cases h
  have harray : array [] ≠ null := by
    intro h
    cases h
  have hint : int 2 ≠ null := by
    intro h
    cases h
  exact ⟨ho, hvalue ["a", "x"] _ rfl harray rfl, hvalue ["b", "c"] _ rfl hint rfl, rfl, rfl, rfl,
    hbelow ["a"] "z" [] rfl rfl rfl, hlost⟩

end Json

end NavigationBar
