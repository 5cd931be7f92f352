import NavigationBar.Proofs.Decode.Steps
import NavigationBar.Proofs.Json.Ordering

/-!
# Decoders and their writers

A writer fits a decoder if whatever the decoder makes of some value is made again of its written
form, whether that stands in a document or in a copy. The written form is read with its members in
order, as every value holds them.
-/

namespace NavigationBar.Decode

variable {α β γ : Type}

/-- What a decoder makes of some value. -/
def Yields (d : Decoder α) (a : α) : Prop :=
  ∃ o v, v.WellFormed ∧ d o v = .ok a

/-- Everything that a decoder yields is read again from what is written of it. -/
structure RoundTrips (d : Decoder α) (write : α → Json) : Prop where
  /-- The integers that are written of it fit. -/
  fits : ∀ a, Yields d a → (write a).Fits
  /-- What is written of it decodes to it. -/
  again : ∀ a, Yields d a → ∀ o, d o (write a).sorted = .ok a

/-- A decoder that reads every written form need not know which values it yields. -/
theorem RoundTrips.of_forall {d : Decoder α} {write : α → Json}
    (hfits : ∀ a, (write a).Fits) (hread : ∀ o a, d o (write a).sorted = .ok a) :
    RoundTrips d write where
  fits := fun a _ => hfits a
  again := fun a _ o => hread o a

/-! ## Plain values -/

theorem text_roundTrips : RoundTrips text .string :=
  .of_forall (fun s => .string s) fun _ _ => rfl

theorem flag_roundTrips : RoundTrips flag .bool :=
  .of_forall (fun b => .bool b) fun _ _ => rfl

theorem Yields.natural_le {high : Nat} {name : String} {n : Nat}
    (h : Yields (natural high name) n) : n ≤ high := by
  obtain ⟨o, v, -, heq⟩ := h
  cases v with
  | int i =>
    simp only [natural, integer] at heq
    split at heq
    · rename_i hbounds
      cases heq
      omega
    · cases heq
  | null | bool | float | string | array | object => cases heq

theorem natural_roundTrips (high : Nat) (hhigh : high < twoTo 64) (name : String) :
    RoundTrips (natural high name) fun n => .int n := by
  constructor
  · intro n hn
    have hle := hn.natural_le
    exact .int _ (by omega) (by omega)
  · intro n hn o
    have hle := hn.natural_le
    simp only [natural, integer, Json.sorted]
    rw [if_pos (by omega)]
    rfl

/-- A name is read again if the table has it. -/
theorem name_roundTrips {table : List (String × α)} (nameOf : α → String)
    (h : ∀ a, table.lookup (nameOf a) = some a) :
    RoundTrips (name table) fun a => .string (nameOf a) := by
  refine .of_forall (fun a => .string _) fun o a => ?_
  simp only [name, Json.sorted, h a]

/-- A choice of two types round trips if both do and what is written of the second does not fit the
first. -/
theorem either_roundTrips {first : Decoder α} {second : Decoder β} {left : α → γ} {right : β → γ}
    {writeFirst : α → Json} {writeSecond : β → Json} {write : γ → Json}
    (hfirst : RoundTrips first writeFirst) (hsecond : RoundTrips second writeSecond)
    (hapart : ∀ b a, first .document (writeSecond b).sorted ≠ .ok a)
    (hleft : ∀ a, write (left a) = writeFirst a) (hright : ∀ b, write (right b) = writeSecond b)
    (type : String) : RoundTrips (either first second left right type) write := by
  have hyields : ∀ c, Yields (either first second left right type) c →
      (∃ a, Yields first a ∧ c = left a) ∨ ∃ b, Yields second b ∧ c = right b := by
    rintro c ⟨o, v, hv, hread⟩
    unfold either at hread
    split at hread
    · rename_i a ha
      cases hread
      exact Or.inl ⟨a, ⟨_, v, hv, ha⟩, rfl⟩
    · split at hread
      · rename_i b hb
        cases hread
        exact Or.inr ⟨b, ⟨_, v, hv, hb⟩, rfl⟩
      · cases hread
  constructor
  · intro c hc
    rcases hyields c hc with ⟨a, ha, rfl⟩ | ⟨b, hb, rfl⟩
    · rw [hleft]
      exact hfirst.fits a ha
    · rw [hright]
      exact hsecond.fits b hb
  · intro c hc o
    rcases hyields c hc with ⟨a, ha, rfl⟩ | ⟨b, hb, rfl⟩
    · rw [hleft, either, hfirst.again a ha .document]
    · rw [hright, either, hsecond.again b hb .document]
      cases hread : first .document (writeSecond b).sorted with
      | ok a => exact absurd hread (hapart b a)
      | error e => rfl

/-! ## Lists -/

theorem exists_of_mem_mapM {f : α → Decoded β} {xs : List α} {ys : List β}
    (h : xs.mapM f = .ok ys) : ∀ y ∈ ys, ∃ x ∈ xs, f x = .ok y := by
  induction xs generalizing ys with
  | nil =>
    cases h
    simp
  | cons x xs ih =>
    rw [List.mapM_cons] at h
    cases hx : f x with
    | error e => rw [hx] at h; cases h
    | ok z =>
      cases hxs : xs.mapM f with
      | error e => rw [hx, hxs] at h; cases h
      | ok zs =>
        rw [hx, hxs] at h
        cases h
        intro y hy
        rcases List.mem_cons.mp hy with rfl | hy
        · exact ⟨x, List.mem_cons_self, hx⟩
        · obtain ⟨x', hx', hread⟩ := ih hxs y hy
          exact ⟨x', List.mem_cons_of_mem _ hx', hread⟩

theorem mapM_map_eq_ok {f : β → Decoded α} {g : α → β} {xs : List α}
    (h : ∀ x ∈ xs, f (g x) = .ok x) : (xs.map g).mapM f = .ok xs := by
  induction xs with
  | nil => rfl
  | cons x xs ih =>
    have hxs := ih fun y hy => h y (List.mem_cons_of_mem _ hy)
    rw [List.map_cons, List.mapM_cons, h x List.mem_cons_self, hxs]
    rfl

theorem Yields.of_mem_list {d : Decoder α} {as : List α} (h : Yields (list d) as) :
    ∀ a ∈ as, Yields d a := by
  obtain ⟨o, v, hv, heq⟩ := h
  cases hv with
  | array items each =>
    intro a ha
    obtain ⟨w, hw, hread⟩ := exists_of_mem_mapM heq a ha
    exact ⟨o, w, each w hw, hread⟩
  | null | bool | int | float | string | object => cases heq

theorem RoundTrips.list {d : Decoder α} {write : α → Json} (h : RoundTrips d write) :
    RoundTrips (Decode.list d) fun as => .array (as.map write) := by
  constructor
  · intro as has
    refine .array _ fun v hv => ?_
    obtain ⟨a, ha, rfl⟩ := List.mem_map.mp hv
    exact h.fits a (has.of_mem_list a ha)
  · intro as has o
    rw [Json.sorted, Json.sortedItems_eq_map, List.map_map]
    exact mapM_map_eq_ok fun a ha => h.again a (has.of_mem_list a ha) o

/-! ## Members -/

theorem Yields.wellFormed_members {ms : Fields} (h : Yields members ms) :
    (Json.object ms).WellFormed := by
  obtain ⟨o, v, hv, heq⟩ := h
  cases v with
  | object fields => exact Except.ok.inj heq ▸ hv
  | null | bool | int | float | string | array => cases heq

/-- The entries of a dictionary stand in the order of their keys. -/
theorem Yields.of_dictionary {d : Decoder α} {entries : List (String × α)}
    (h : Yields (dictionary d) entries) :
    (entries.map Prod.fst).Pairwise (· < ·) ∧ ∀ p ∈ entries, Yields d p.2 := by
  obtain ⟨o, v, hv, heq⟩ := h
  cases hv with
  | object fields ascending each =>
    have hkeys : entries.map Prod.fst = fields.map Prod.fst := by
      have hall := mapM_eq_ok_iff.mp heq
      clear heq each ascending
      induction hall with
      | nil => rfl
      | cons hp hall ih =>
        obtain ⟨a, ha, rfl⟩ := map_eq_ok.mp hp
        rw [List.map_cons, List.map_cons, ih]
    refine ⟨hkeys ▸ List.pairwise_map.mpr ascending, fun p hp => ?_⟩
    obtain ⟨q, hq, hread⟩ := exists_of_mem_mapM heq p hp
    obtain ⟨a, ha, rfl⟩ := map_eq_ok.mp hread
    exact ⟨o, q.2, each q hq, ha⟩
  | null | bool | int | float | string | array => cases heq

theorem ascending_dictionary {entries : List (String × α)}
    (h : (entries.map Prod.fst).Pairwise (· < ·)) (write : α → Json) :
    Fields.Ascending (entries.map fun p => (p.1, write p.2)) := by
  rw [Fields.Ascending, List.pairwise_map]
  exact List.pairwise_map.mp h

/-- A dictionary is read again if each of its values is. -/
theorem dictionary_map {d : Decoder α} {write : α → Json} {o : Origin}
    (h : ∀ a, d o (write a) = .ok a) (entries : List (String × α)) :
    dictionary d o (.object (entries.map fun p => (p.1, write p.2))) = .ok entries := by
  refine mapM_map_eq_ok fun p hp => ?_
  dsimp only
  rw [h]
  rfl

end NavigationBar.Decode
