import NavigationBar.Config.Load
import NavigationBar.Proofs.Json.Ordering

/-!
# The values that documents denote

Whatever a document is read as is well formed: integers that do not fit 64 bits are refused or
become doubles, and the members of an object are put in the order of their keys one at a time. This
holds of both readers, and each makes it of a value because it does of what is nested in it.
-/

namespace NavigationBar

namespace Json

/-- Whatever a reader makes has a property. -/
def Makes {α : Type} (P : α → Prop) (result : Read α) : Prop :=
  ∀ a rest, result = .ok (a, rest) → P a

section

variable {α β : Type} {P : α → Prop} {Q : β → Prop}

theorem makes_error (r : Refusal) : Makes P (.error r) := nofun

theorem makes_ok {a : α} (ha : P a) (rest : List Char) : Makes P (.ok (a, rest)) := by
  intro b more h
  cases h
  exact ha

theorem makes_map {result : Except Refusal β} {f : β → α × List Char} (hf : ∀ b, P (f b).1) :
    Makes P (result.map f) := by
  cases result with
  | error r => exact makes_error r
  | ok b => exact makes_ok (hf b) (f b).2

theorem Makes.map {result : Read α} (h : Makes P result) {f : α → β} (hf : ∀ a, P a → Q (f a)) :
    Makes Q (result.map fun (a, rest) => (f a, rest)) := by
  cases result with
  | error r => exact makes_error r
  | ok ar =>
    obtain ⟨a, rest⟩ := ar
    exact makes_ok (hf a (h a rest rfl)) rest

end

/-! ## Numbers -/

theorem scaled_sound (positive : Bool) (s : Nat) (exponent : Int) (cs : List Char) :
    Makes WellFormed (scaled positive s exponent cs) := by
  unfold scaled
  split
  · exact makes_ok (.float _) _
  · exact makes_error _

theorem readExponent_sound (positive : Bool) (s : Nat) (start : Int) (cs : List Char) :
    Makes WellFormed (readExponent positive s start cs) := by
  unfold readExponent
  repeat' split
  all_goals first
    | exact makes_error _
    | exact makes_ok (.float _) _
    | exact scaled_sound _ _ _ _

theorem readScale_sound (positive : Bool) (s : Nat) (exponent : Int) (cs : List Char) :
    Makes WellFormed (readScale positive s exponent cs) := by
  unfold readScale
  split
  · exact readExponent_sound _ _ _ _
  · exact readExponent_sound _ _ _ _
  · exact scaled_sound _ _ _ _

theorem readPoint_sound (positive : Bool) (s : Nat) (before : Int) (cs : List Char) :
    Makes WellFormed (readPoint positive s before cs) := by
  unfold readPoint
  repeat' split
  all_goals first
    | exact makes_error _
    | exact readScale_sound _ _ _ _

theorem readInteger_le {n : Nat} (hn : n ≤ maxWord) (cs : List Char) :
    (readInteger n cs).1 ≤ maxWord := by
  induction cs generalizing n with
  | nil => exact hn
  | cons c cs ih =>
    rw [readInteger]
    split
    · split
      · exact hn
      · exact ih (by omega)
    · exact hn

theorem readNumberEnd_sound (positive : Bool) {n : Nat} (hn : n ≤ maxWord) (cs : List Char) :
    Makes WellFormed (readNumberEnd positive n cs) := by
  have hword : n < twoTo 64 := Nat.lt_of_le_of_lt hn (by decide)
  unfold readNumberEnd
  split
  · exact readPoint_sound _ _ _ _
  · exact readExponent_sound _ _ _ _
  · exact readExponent_sound _ _ _ _
  · split
    · exact makes_ok (.int _ (by omega) (by omega)) _
    · split
      · exact makes_ok (.float _) _
      · exact makes_ok (.int _ (by omega) (by omega)) _

theorem readNumber_sound (positive : Bool) (cs : List Char) :
    Makes WellFormed (readNumber positive cs) := by
  have hzero : (0 : Nat) ≤ maxWord := Nat.zero_le _
  unfold readNumber
  split
  · exact makes_error _
  · split
    · split
      · exact makes_error _
      · exact readNumberEnd_sound _ hzero _
    · exact readNumberEnd_sound _ hzero _
  · rename_i c r _
    split
    · have hle := readInteger_le hzero (c :: r)
      generalize readInteger 0 (c :: r) = digits at hle ⊢
      obtain ⟨n, rest, fits⟩ := digits
      dsimp only
      split
      · exact readNumberEnd_sound _ hle _
      · split
        · exact readPoint_sound _ _ _ _
        · exact readScale_sound _ _ _ _
    · split <;> exact makes_error _

/-! ## Values -/

/-- The members of a well-formed object. -/
structure WellFormedMembers (fields : Fields) : Prop where
  /-- Their keys are in order. -/
  ascending : fields.Ascending
  /-- Their values are well formed. -/
  each : ∀ p ∈ fields, p.2.WellFormed

theorem WellFormedMembers.nil : WellFormedMembers [] :=
  ⟨.nil, List.forall_mem_nil _⟩

theorem WellFormedMembers.set {fields : Fields} (h : WellFormedMembers fields) (key : String)
    {v : Json} (hv : v.WellFormed) : WellFormedMembers (fields.set key v) where
  ascending := h.ascending.set key v
  each := by
    intro p hp
    rcases Fields.mem_set hp with rfl | hp
    · exact hv
    · exact h.each p hp

/-- The readers of values, elements and members, with so much fuel, make what is well formed. -/
structure ReadersMake (fuel : Nat) : Prop where
  value : ∀ depth cs, Makes WellFormed (readValue depth fuel cs)
  items : ∀ depth first done cs, (∀ v ∈ done, v.WellFormed) →
    Makes (fun vs => ∀ v ∈ vs, v.WellFormed) (readItems depth first done fuel cs)
  members : ∀ depth first done cs, WellFormedMembers done →
    Makes WellFormedMembers (readMembers depth first done fuel cs)

theorem ReadersMake.readValue {fuel : Nat} (h : ReadersMake fuel) (depth : Nat) (cs : List Char) :
    Makes WellFormed (readValue depth (fuel + 1) cs) := by
  rw [Json.readValue]
  split
  · exact makes_error _
  · exact makes_map fun _ => .null
  · exact makes_map fun _ => .bool true
  · exact makes_map fun _ => .bool false
  · exact readNumber_sound _ _
  · exact makes_map fun _ => .string _
  · split
    · exact makes_error _
    · exact (h.items _ _ _ _ (by simp)).map fun vs hvs => .array vs hvs
  · split
    · exact makes_error _
    · exact (h.members _ _ _ _ .nil).map fun ms hms => .object ms hms.ascending hms.each
  · split
    · exact readNumber_sound _ _
    · exact makes_error _

theorem ReadersMake.readItems {fuel : Nat} (h : ReadersMake fuel) (depth : Nat) (first : Bool)
    {done : List Json} (hdone : ∀ v ∈ done, v.WellFormed) (cs : List Char) :
    Makes (fun vs => ∀ v ∈ vs, v.WellFormed) (readItems depth first done (fuel + 1) cs) := by
  rw [Json.readItems]
  split
  · exact makes_error _
  · exact makes_ok (fun v hv => hdone v (List.mem_reverse.mp hv)) _
  · dsimp only
    split
    · exact makes_error _
    · split
      · exact makes_error _
      · rename_i v rest hread
        have hv : v.WellFormed := h.value _ _ v rest hread
        exact h.items _ _ _ _ (List.forall_mem_cons.mpr ⟨hv, hdone⟩)

theorem ReadersMake.readMembers {fuel : Nat} (h : ReadersMake fuel) (depth : Nat) (first : Bool)
    {done : Fields} (hdone : WellFormedMembers done) (cs : List Char) :
    Makes WellFormedMembers (readMembers depth first done (fuel + 1) cs) := by
  rw [Json.readMembers]
  split
  · exact makes_error _
  · exact makes_ok hdone _
  · dsimp only
    split
    · exact makes_error _
    · split
      · exact makes_error _
      · split
        · exact makes_error _
        · split
          · exact makes_error _
          · rename_i v rest hread
            have hv : v.WellFormed := h.value _ _ v rest hread
            exact h.members _ _ _ _ (hdone.set _ hv)
        · exact makes_error _
    · exact makes_error _

theorem readersMake (fuel : Nat) : ReadersMake fuel := by
  induction fuel with
  | zero => exact ⟨fun _ _ => makes_error _, fun _ _ _ _ _ => makes_error _,
      fun _ _ _ _ _ => makes_error _⟩
  | succ fuel ih =>
    exact ⟨ih.readValue, fun _ _ _ cs hdone => ih.readItems _ _ hdone cs,
      fun _ _ _ cs hdone => ih.readMembers _ _ hdone cs⟩

/-- What a text is read as is well formed. -/
theorem wellFormed_of_parse {source : String} {v : Json} (h : parse source = .ok v) :
    v.WellFormed := by
  unfold parse at h
  have hmakes := (readersMake (2 * source.toList.length + 2)).value depthLimit source.toList
  cases hread : Json.readValue depthLimit (2 * source.toList.length + 2) source.toList with
  | error r =>
    simp [hread, bind, Except.bind, Except.mapError] at h
  | ok vr =>
    obtain ⟨w, rest⟩ := vr
    have hw : w.WellFormed := hmakes w rest hread
    simp only [hread, bind, Except.bind] at h
    split at h
    · cases h
      exact hw
    · cases h

end Json

namespace Ron

/-- Whatever a reader makes has a property. -/
def Makes {α : Type} (P : α → Prop) (result : Option (α × List Char)) : Prop :=
  ∀ a rest, result = some (a, rest) → P a

section

variable {α β : Type} {P : α → Prop} {Q : β → Prop}

theorem makes_none : Makes P none := nofun

theorem makes_some {a : α} (ha : P a) (rest : List Char) : Makes P (some (a, rest)) := by
  intro b more h
  cases h
  exact ha

theorem makes_bind {result : Option β} {f : β → Option (α × List Char)}
    (hf : ∀ b, result = some b → Makes P (f b)) : Makes P (result.bind f) := by
  cases result with
  | none => exact makes_none
  | some b => exact hf b rfl

theorem makes_map {result : Option β} {f : β → α × List Char}
    (hf : ∀ b, result = some b → P (f b).1) : Makes P (result.map f) := by
  cases result with
  | none => exact makes_none
  | some b => exact makes_some (hf b rfl) (f b).2

end

/-! ## Numbers -/

/-- The bounds of an integer type lie within those of the integers that values may hold. -/
theorem integerTypes_bounds {name : String} {bounds : Int × Int}
    (h : integerTypes.lookup name = some bounds) :
    -(twoTo 63 : Int) ≤ bounds.1 ∧ bounds.2 < twoTo 64 := by
  have hall : ∀ t ∈ integerTypes, -(twoTo 63 : Int) ≤ t.2.1 ∧ t.2.2 < twoTo 64 := by decide
  obtain ⟨before, after, heq, -⟩ := List.lookup_eq_some_iff.mp h
  exact hall (name, bounds) (heq ▸ List.mem_append_cons_self)

theorem makes_within {low high i : Int} (hlow : -(twoTo 63 : Int) ≤ low) (hhigh : high < twoTo 64)
    (rest : List Char) :
    Makes Json.WellFormed (if low ≤ i ∧ i ≤ high then some (.int i, rest) else none) := by
  split
  · exact makes_some (.int i (by omega) (by omega)) rest
  · exact makes_none

theorem readInteger_sound (cs : List Char) : Makes Json.WellFormed (readInteger cs) := by
  unfold readInteger
  dsimp only
  split
  all_goals
    split
    · exact makes_none
    · refine makes_bind fun n _ => ?_
      split
      · exact makes_within (by decide) (by decide) _
      · refine makes_bind fun bounds hbounds => ?_
        have hfit := integerTypes_bounds hbounds
        exact makes_within hfit.1 hfit.2 _

theorem wellFormed_ofFloat (x : Float) : (Json.ofFloat x).WellFormed := by
  unfold Json.ofFloat
  split
  · exact .float x
  · exact .null

theorem readFloat_sound (cs : List Char) : Makes Json.WellFormed (readFloat cs) := by
  unfold readFloat
  dsimp only
  split
  · exact makes_none
  · exact makes_bind fun x _ => makes_some (wellFormed_ofFloat x) _

theorem readNumber_sound (cs : List Char) : Makes Json.WellFormed (readNumber cs) := by
  unfold readNumber
  dsimp only
  split
  · exact makes_some .null _
  · exact makes_some .null _
  · split
    · exact readFloat_sound cs
    · intro v rest h
      rcases Option.or_eq_some_iff.mp h with h | ⟨-, h⟩
      · exact readInteger_sound cs v rest h
      · exact readFloat_sound cs v rest h

/-! ## Values -/

theorem wellFormed_charCode (c : Char) : (Json.int c.toNat).WellFormed := by
  have hc : c.toNat < twoTo 32 := c.val.toNat_lt
  have hlt : twoTo 32 < twoTo 64 := by decide
  exact .int _ (by omega) (by omega)

theorem wellFormed_ofName {name : String} {v : Json} (h : Word.ofName name = .value v) :
    v.WellFormed := by
  unfold Word.ofName at h
  split at h
  all_goals cases h
  · exact .bool true
  · exact .bool false
  · exact .null
  · exact .null
  · exact .null

theorem readPlain_sound (cs : List Char) : Makes Json.WellFormed (readPlain cs) := by
  unfold readPlain
  split
  · exact makes_none
  · split
    · exact readNumber_sound _
    · split
      · exact makes_map fun _ _ => .string _
      · exact makes_none

/-- The readers of values, parentheses, elements and members, with so much fuel, make what is well
formed. -/
structure ReadersMake (fuel : Nat) : Prop where
  value : ∀ depth cs, Makes Json.WellFormed (readValue depth fuel cs)
  parenthesis : ∀ depth cs, Makes Json.WellFormed (readParenthesis depth fuel cs)
  items : ∀ closing depth comma done cs, (∀ v ∈ done, v.WellFormed) →
    Makes (fun vs => ∀ v ∈ vs, v.WellFormed) (readItems closing depth comma done fuel cs)
  members : ∀ named closing depth comma done cs, Json.WellFormedMembers done →
    Makes Json.WellFormedMembers (readMembers named closing depth comma done fuel cs)

namespace ReadersMake

variable {fuel : Nat} (h : ReadersMake fuel)

include h

theorem array (closing : Char) (depth : Nat) (cs : List Char)
    (close : List Char → Option (List Char)) :
    Makes Json.WellFormed ((readItems closing depth true [] fuel cs).bind fun (items, rest) =>
      (close rest).map fun rest => (.array items, rest)) :=
  makes_bind fun (items, rest) hread =>
    makes_map fun _ _ => .array items (h.items closing depth true [] cs (by simp) items rest hread)

theorem object (named : Bool) (closing : Char) (depth : Nat) (cs : List Char)
    (close : List Char → Option (List Char)) :
    Makes Json.WellFormed ((readMembers named closing depth true [] fuel cs).bind fun (ms, rest) =>
      (close rest).map fun rest => (.object ms, rest)) :=
  makes_bind fun (ms, rest) hread =>
    have hms := h.members named closing depth true [] cs .nil ms rest hread
    makes_map fun _ _ => .object ms hms.ascending hms.each

theorem readParenthesis (depth : Nat) (cs : List Char) :
    Makes Json.WellFormed (readParenthesis depth (fuel + 1) cs) := by
  rw [Ron.readParenthesis]
  split
  · exact h.object _ _ _ _ _
  · exact h.array _ _ _ _

theorem readValue (depth : Nat) (cs : List Char) :
    Makes Json.WellFormed (readValue depth (fuel + 1) cs) := by
  unfold Ron.readValue
  split
  · exact makes_some .null _
  · exact h.parenthesis _ _
  · exact h.array _ _ _ _
  · exact h.object _ _ _ _ _
  · exact makes_map fun _ _ => .string _
  · exact makes_map fun _ _ => .string _
  · exact makes_map fun _ _ => wellFormed_charCode _
  · split
    · exact readPlain_sound _
    · split
      · rename_i hname
        exact makes_some (wellFormed_ofName hname) _
      · split
        · exact makes_none
        · refine makes_bind fun rest _ => makes_bind fun (v, rest) hread => makes_map fun _ _ => ?_
          exact h.value _ _ v rest hread
      · split
        · exact makes_none
        · exact h.parenthesis _ _
        · exact makes_some .null _

theorem readItems (closing : Char) (depth : Nat) (comma : Bool) {done : List Json}
    (hdone : ∀ v ∈ done, v.WellFormed) (cs : List Char) :
    Makes (fun vs => ∀ v ∈ vs, v.WellFormed)
      (readItems closing depth comma done (fuel + 1) cs) := by
  rw [Ron.readItems]
  split
  · exact makes_none
  · split
    · exact makes_some (fun v hv => hdone v (List.mem_reverse.mp hv)) _
    · split
      · exact makes_none
      · refine makes_bind fun (v, rest) hread => makes_bind fun (comma, rest) _ => ?_
        have hv : v.WellFormed := h.value _ _ v _ hread
        exact h.items _ _ _ _ _ (List.forall_mem_cons.mpr ⟨hv, hdone⟩)

theorem readMembers (named : Bool) (closing : Char) (depth : Nat) (comma : Bool) {done : Fields}
    (hdone : Json.WellFormedMembers done) (cs : List Char) :
    Makes Json.WellFormedMembers (readMembers named closing depth comma done (fuel + 1) cs) := by
  rw [Ron.readMembers]
  split
  · exact makes_none
  · split
    · exact makes_some hdone _
    · split
      · exact makes_none
      · refine makes_bind fun (key, rest) _ => makes_bind fun rest _ => ?_
        refine makes_bind fun (v, rest) hread => makes_bind fun (comma, rest) _ => ?_
        have hv : v.WellFormed := h.value _ _ v _ hread
        exact h.members _ _ _ _ _ _ (hdone.set key hv)

end ReadersMake

theorem readersMake (fuel : Nat) : ReadersMake fuel := by
  induction fuel with
  | zero =>
    exact ⟨fun _ _ => makes_none, fun _ _ => makes_none, fun _ _ _ _ _ _ => makes_none,
      fun _ _ _ _ _ _ _ => makes_none⟩
  | succ fuel ih =>
    exact ⟨ih.readValue, ih.readParenthesis, fun _ _ _ _ cs hdone => ih.readItems _ _ _ hdone cs,
      fun _ _ _ _ _ cs hdone => ih.readMembers _ _ _ _ hdone cs⟩

/-- What a text is read as is well formed. -/
theorem wellFormed_of_parse {source : String} {v : Json} (h : parse? source = some v) :
    v.WellFormed := by
  simp only [parse?, parseChars?, Option.bind_eq_bind, Option.bind_eq_some_iff] at h
  obtain ⟨cs, -, start, -, ⟨w, rest⟩, hread, left, -, hend⟩ := h
  have hw : w.WellFormed := (readersMake _).value _ _ w rest hread
  split at hend
  · cases hend
    exact hw
  · cases hend

end Ron

/-- What a document is read as is well formed, whichever reader its path asks for. -/
theorem wellFormed_of_readDocument {source : String} {path : Option String} {v : Json}
    (h : readDocument source path = .ok v) : v.WellFormed := by
  unfold readDocument at h
  split at h
  · split at h
    · rename_i hparse
      cases h
      exact Ron.wellFormed_of_parse hparse
    · cases h
  · split at h
    · rename_i hparse
      cases h
      exact Json.wellFormed_of_parse hparse
    · cases h

end NavigationBar
