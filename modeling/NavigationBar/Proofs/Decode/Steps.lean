import Mathlib.Data.List.Forall2
import NavigationBar.Decode.Record

/-!
# Decoding, step by step

A chain of decoders succeeds if each of them does, and a list is decoded element by element. What
most fields of a record type make of their values has nothing to do with the rest of the record: if
fields ignore a change of the record under construction, so does decoding any number of them.
-/

namespace NavigationBar.Decode

variable {α β γ : Type}

theorem bind_eq_ok {x : Decoded α} {f : α → Decoded β} {b : β} :
    (x >>= f) = .ok b ↔ ∃ a, x = .ok a ∧ f a = .ok b := by
  cases x <;> simp [bind, Except.bind]

theorem map_eq_ok {x : Decoded α} {f : α → β} {b : β} :
    x.map f = .ok b ↔ ∃ a, x = .ok a ∧ f a = b := by
  cases x <;> simp [Except.map]

/-! ## Lists -/

theorem mapM_eq_ok_iff {f : α → Decoded β} {xs : List α} {ys : List β} :
    xs.mapM f = .ok ys ↔ List.Forall₂ (fun x y => f x = .ok y) xs ys := by
  induction xs generalizing ys with
  | nil => simp [pure, Except.pure, eq_comm]
  | cons x xs ih =>
    rw [List.mapM_cons, bind_eq_ok, List.forall₂_cons_left_iff]
    constructor
    · rintro ⟨y, hy, hrest⟩
      obtain ⟨ys', hys, heq⟩ := bind_eq_ok.mp hrest
      exact ⟨y, ys', hy, ih.mp hys, (Except.ok.inj heq).symm⟩
    · rintro ⟨y, ys', hy, hys, rfl⟩
      exact ⟨y, hy, bind_eq_ok.mpr ⟨ys', ih.mpr hys, rfl⟩⟩

/-- A list is decoded if each of its elements is. -/
theorem exists_mapM_eq_ok_iff {f : α → Decoded β} {xs : List α} :
    (∃ ys, xs.mapM f = .ok ys) ↔ ∀ x ∈ xs, ∃ y, f x = .ok y := by
  induction xs with
  | nil => simp [pure, Except.pure]
  | cons x xs ih =>
    rw [List.forall_mem_cons, ← ih]
    simp only [mapM_eq_ok_iff, List.forall₂_cons_left_iff]
    constructor
    · rintro ⟨ys, y, ys', hy, hys, -⟩
      exact ⟨⟨y, hy⟩, ys', hys⟩
    · rintro ⟨⟨y, hy⟩, ys, hys⟩
      exact ⟨y :: ys, y, ys, hy, hys, rfl⟩

theorem mapM_append_cons_eq_ok {f : α → Decoded β} {before after : List α} {x : α} {ys : List β} :
    (before ++ x :: after).mapM f = .ok ys ↔
      ∃ ys₁ y ys₂, before.mapM f = .ok ys₁ ∧ f x = .ok y ∧ after.mapM f = .ok ys₂ ∧
        ys = ys₁ ++ y :: ys₂ := by
  simp only [mapM_eq_ok_iff]
  induction before generalizing ys with
  | nil => simp [List.forall₂_cons_left_iff]
  | cons b before ih =>
    simp only [List.cons_append, List.forall₂_cons_left_iff, ih]
    constructor
    · rintro ⟨z, _, hz, ⟨ys₁, y, ys₂, h₁, hy, h₂, rfl⟩, rfl⟩
      exact ⟨z :: ys₁, y, ys₂, ⟨z, ys₁, hz, h₁, rfl⟩, hy, h₂, rfl⟩
    · rintro ⟨_, y, ys₂, ⟨z, ys₁, hz, h₁, rfl⟩, hy, h₂, rfl⟩
      exact ⟨z, ys₁ ++ y :: ys₂, hz, ⟨ys₁, y, ys₂, h₁, hy, h₂, rfl⟩, rfl⟩

/-! ## Members, one after the other -/

/-- Members are decoded if each of them is, whatever was decoded before it. -/
theorem exists_foldlM_eq_ok {put : β → α → Decoded β} {xs : List α}
    (h : ∀ x ∈ xs, ∀ b, ∃ c, put b x = .ok c) (b : β) : ∃ c, xs.foldlM put b = .ok c := by
  induction xs generalizing b with
  | nil => exact ⟨b, rfl⟩
  | cons x xs ih =>
    obtain ⟨hx, hxs⟩ := List.forall_mem_cons.mp h
    obtain ⟨c, hc⟩ := hx b
    obtain ⟨e, he⟩ := ih hxs c
    refine ⟨e, ?_⟩
    rw [List.foldlM_cons, hc]
    exact he

/-- What stands in the result where only the member under one key puts something. -/
theorem foldlM_reads (key : String) (get : α → β) (d : Json → Decoded β)
    {put : α → String × Json → Decoded α}
    (hset : ∀ x v y, put x (key, v) = .ok y → d v = .ok (get y))
    (hkeep : ∀ x p y, p.1 ≠ key → put x p = .ok y → get y = get x) {ms : Fields}
    (hms : (ms.map Prod.fst).Nodup) {x y : α} (h : ms.foldlM put x = .ok y) :
    match ms.lookup key with
    | some v => d v = .ok (get y)
    | none => get y = get x := by
  induction ms generalizing x with
  | nil => exact congrArg get (Except.ok.inj h).symm
  | cons p ms ih =>
    obtain ⟨hnotin, hrest⟩ := List.nodup_cons.mp hms
    rw [List.foldlM_cons] at h
    obtain ⟨z, hz, h⟩ := bind_eq_ok.mp h
    have hih := ih hrest h
    rw [List.lookup_cons]
    by_cases hp : p.1 = key
    · subst hp
      have hnone : ms.lookup p.1 = none := by
        rw [List.lookup_eq_none_iff]
        intro q hq
        have hne : p.1 ≠ q.1 := fun heq => hnotin (heq ▸ List.mem_map_of_mem hq)
        exact bne_iff_ne.mpr hne
      rw [hnone] at hih
      rw [beq_self_eq_true]
      dsimp only at hih ⊢
      rw [hih]
      exact hset x p.2 z hz
    · rw [beq_eq_false_iff_ne.mpr (Ne.symm hp)]
      rwa [hkeep x p z hp hz] at hih

/-- Members are decoded as a record if each of them is and no required field is missing. -/
theorem Record.ofMembers_eq_ok_iff {r : Record α} {o : Origin} {ms : Fields} {x : α} :
    r.ofMembers o ms = .ok x ↔ r.putAll o r.initial ms = .ok x ∧ r.missing? ms = none := by
  rw [ofMembers, bind_eq_ok]
  cases r.missing? ms with
  | none => simp
  | some f => simp

/-! ## Changes of a record that fields ignore -/

/-- What a field makes of its value is the same in a changed record, with the same change. -/
def Field.Ignores (f : Field α) (change : α → α) : Prop :=
  ∀ o x v, f.put o (change x) v = (f.put o x v).map change

theorem Field.ignores_of {key : String} {d : Decoder β} {keep : α → β → α} {change : α → α}
    (h : ∀ x b, keep (change x) b = change (keep x b)) : (Field.of key d keep).Ignores change := by
  intro o x v
  change (d o v).map (keep (change x)) = ((d o v).map (keep x)).map change
  cases d o v with
  | error e => rfl
  | ok b => exact congrArg Except.ok (h x b)

namespace Record

variable {r : Record α} {change : α → α}

theorem putAll_change {ms : Fields}
    (h : ∀ f ∈ r.fields, f.key ∈ ms.map Prod.fst → f.Ignores change) (o : Origin) (x : α) :
    r.putAll o (change x) ms = (r.putAll o x ms).map change := by
  induction ms generalizing x with
  | nil => rfl
  | cons p ms ih =>
    obtain ⟨k, v⟩ := p
    have hrest : ∀ f ∈ r.fields, f.key ∈ ms.map Prod.fst → f.Ignores change :=
      fun f hf hk => h f hf (List.mem_cons_of_mem _ hk)
    rw [putAll, putAll, List.foldlM_cons, List.foldlM_cons]
    cases hf : r.field? k with
    | none =>
      simp only [hf]
      exact ih hrest x
    | some f =>
      have hmem : f ∈ r.fields := List.mem_of_find?_eq_some hf
      have hkey := List.find?_some hf
      have hput := h f hmem (beq_iff_eq.mp hkey ▸ List.mem_cons_self) o x v
      simp only [hf, hput]
      cases f.put o x v with
      | error e => rfl
      | ok y => exact ih hrest y

theorem putItems_change {fs : List (Field α)} (h : ∀ f ∈ fs, f.Ignores change) (o : Origin)
    (expected : String) (index : Nat) (x : α) (items : List Json) :
    putItems o expected index (change x) fs items =
      (putItems o expected index x fs items).map fun p => (change p.1, p.2) := by
  induction fs generalizing index x items with
  | nil => rfl
  | cons f fs ih =>
    obtain ⟨hf, hfs⟩ := List.forall_mem_cons.mp h
    cases items with
    | nil =>
      rw [putItems, putItems]
      split
      · rfl
      · exact ih hfs _ x []
    | cons v items =>
      rw [putItems, putItems, hf o x v]
      cases f.put o x v with
      | error e => rfl
      | ok y => exact ih hfs _ y items

end Record

end NavigationBar.Decode
