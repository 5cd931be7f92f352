import NavigationBar.Proofs.Json.Numbers
import NavigationBar.Proofs.Json.Ordering
import NavigationBar.Proofs.Json.Texts

/-!
# What is written is read

The indented text of a value is read as the value, its members in order, exactly if no more brackets
are open at a time than the reader allows; otherwise the reader refuses it for that reason. This
holds of the values whose integers fit 64 bits and whose doubles are read back from their own texts,
which the reader does not do for all of them.
-/

namespace NavigationBar.Json

mutual

/-- How many brackets of a value are open at a time. -/
def depth : Json → Nat
  | array items => depthItems items + 1
  | object fields => depthFields fields + 1
  | _ => 0

/-- The same, for the elements of a list. -/
def depthItems : List Json → Nat
  | [] => 0
  | v :: rest => max v.depth (depthItems rest)

/-- The same, for the values of members. -/
def depthFields : List (String × Json) → Nat
  | [] => 0
  | (_, v) :: rest => max v.depth (depthFields rest)

end

/-- A double is read back from its own text. -/
def ReadsBack (x : Float) : Prop :=
  readValue 1 1 (floatText x).toList = .ok (float x, [])

/-- Every double of a value is read back from its own text. -/
inductive Legible : Json → Prop where
  | null : Legible null
  | bool (b : Bool) : Legible (bool b)
  | int (i : Int) : Legible (int i)
  | float (x : Float) (readsBack : ReadsBack x) : Legible (float x)
  | string (s : String) : Legible (string s)
  | array (items : List Json) (each : ∀ v ∈ items, Legible v) : Legible (array items)
  | object (fields : Fields) (each : ∀ p ∈ fields, Legible p.2) : Legible (object fields)

/-! ## Doubles -/

mutual

/-- Whether there is a double in a value. -/
def holdsDouble : Json → Bool
  | float _ => true
  | array items => holdsDoubleItems items
  | object fields => holdsDoubleFields fields
  | _ => false

/-- The same, for the elements of a list. -/
def holdsDoubleItems : List Json → Bool
  | [] => false
  | v :: rest => v.holdsDouble || holdsDoubleItems rest

/-- The same, for the values of members. -/
def holdsDoubleFields : List (String × Json) → Bool
  | [] => false
  | (_, v) :: rest => v.holdsDouble || holdsDoubleFields rest

end

mutual

/-- A value without doubles is legible. -/
theorem legible_of_holdsDouble : ∀ {v : Json}, v.holdsDouble = false → v.Legible
  | null, _ => .null
  | bool b, _ => .bool b
  | int i, _ => .int i
  | string s, _ => .string s
  | array items, h => .array items (legible_of_holdsDoubleItems h)
  | object fields, h => .object fields (legible_of_holdsDoubleFields h)

theorem legible_of_holdsDoubleItems :
    ∀ {items : List Json}, holdsDoubleItems items = false → ∀ v ∈ items, v.Legible
  | [], _ => nofun
  | v :: rest, h => by
    rw [holdsDoubleItems, Bool.or_eq_false_iff] at h
    exact List.forall_mem_cons.mpr
      ⟨legible_of_holdsDouble h.1, legible_of_holdsDoubleItems h.2⟩

theorem legible_of_holdsDoubleFields :
    ∀ {fields : Fields}, holdsDoubleFields fields = false → ∀ p ∈ fields, p.2.Legible
  | [], _ => nofun
  | (key, v) :: rest, h => by
    rw [holdsDoubleFields, Bool.or_eq_false_iff] at h
    exact List.forall_mem_cons.mpr
      ⟨legible_of_holdsDouble h.1, legible_of_holdsDoubleFields h.2⟩

end

/-! ## Blanks -/

/-- A text of blanks. -/
def IsBlank (cs : List Char) : Prop :=
  ∀ c ∈ cs, isSpace c = true

theorem skipSpace_append {blank : List Char} (h : IsBlank blank) (cs : List Char) :
    skipSpace (blank ++ cs) = skipSpace cs := by
  induction blank with
  | nil => rfl
  | cons c blank ih =>
    have hrest := ih fun d hd => h d (List.mem_cons_of_mem _ hd)
    rw [List.cons_append, skipSpace, List.dropWhile_cons, if_pos (h c List.mem_cons_self)]
    exact hrest

theorem skipSpace_cons {c : Char} (h : isSpace c = false) (cs : List Char) :
    skipSpace (c :: cs) = c :: cs := by
  rw [skipSpace, List.dropWhile_cons, if_neg (by simp [h])]

theorem isBlank_lineBreak (level : Nat) : IsBlank (lineBreak level).toList := by
  intro c hc
  rw [lineBreak, String.toList_ofList] at hc
  rcases List.mem_cons.mp hc with rfl | hc
  · rfl
  · rw [(List.mem_replicate.mp hc).2]
    rfl

theorem skipSpace_skipSpace (cs : List Char) : skipSpace (skipSpace cs) = skipSpace cs := by
  induction cs with
  | nil => rfl
  | cons c cs ih =>
    by_cases hc : isSpace c = true
    · have hcons : skipSpace (c :: cs) = skipSpace cs := by
        rw [skipSpace, List.dropWhile_cons, if_pos hc, skipSpace]
      rw [hcons, ih]
    · have hcons := skipSpace_cons (Bool.eq_false_iff.mpr hc) cs
      rw [hcons, hcons]

theorem readValue_skipSpace (d fuel : Nat) (cs : List Char) :
    readValue d (fuel + 1) (skipSpace cs) = readValue d (fuel + 1) cs := by
  rw [readValue, readValue, skipSpace_skipSpace]

/-! ## Brackets -/

/-- What stands between the first part within brackets and the closing one. -/
def following (level : Nat) (parts : List String) : List Char :=
  (parts.flatMap fun p => ',' :: ((lineBreak (level + 1)).toList ++ p.toList))
    ++ (lineBreak level).toList

theorem toList_bracketed (opening closing : String) (level : Nat) (part : String)
    (parts : List String) :
    (bracketed opening closing level (part :: parts)).toList
      = opening.toList ++ ((lineBreak (level + 1)).toList ++ (part.toList
        ++ (following level parts ++ closing.toList))) := by
  have hparts : ∀ parts part, (String.intercalate ("," ++ lineBreak (level + 1))
      (part :: parts)).toList = part.toList
        ++ parts.flatMap fun p => ',' :: ((lineBreak (level + 1)).toList ++ p.toList) := by
    intro parts
    induction parts with
    | nil => intro part; simp
    | cons q parts ih =>
      intro part
      rw [String.intercalate_cons_cons, String.toList_append, String.toList_append, ih,
        String.toList_append, List.flatMap_cons]
      simp
  simp only [bracketed, List.isEmpty_cons, Bool.false_eq_true, if_false, String.toList_append,
    hparts, following, List.append_assoc]

theorem toList_lineBreak (level : Nat) :
    (lineBreak level).toList = '\n' :: List.replicate (2 * level) ' ' := by
  rw [lineBreak, String.toList_ofList]

theorem endsNumber_following (level : Nat) (parts : List String) (rest : List Char) :
    EndsNumber (following level parts ++ rest) := by
  have hcomma : ∀ t, EndsNumber (',' :: t) := fun t => endsNumber_cons.mpr (by decide)
  have hline : ∀ t, EndsNumber ('\n' :: t) := fun t => endsNumber_cons.mpr (by decide)
  simp only [following, toList_lineBreak]
  cases parts with
  | nil => exact hline _
  | cons p parts => exact hcomma _

/-! ## Values -/

/-- What reading a text gives that stands for a value if it is fine, and is nested too deeply
otherwise. -/
def Gives {α : Type} (fine : Prop) (a : α) (rest : List Char)
    (result : Except Refusal (α × List Char)) : Prop :=
  (fine → result = .ok (a, rest)) ∧
    (¬ fine → ∃ r, result = .error r ∧ r.cause = .recursionLimit)

/-- The text of a value, with blanks before it and a text after it that ends numbers, is read as the
value if `d` allows for its brackets. -/
def IsRead (v : Json) : Prop :=
  ∀ d level fuel blank rest, 0 < d → IsBlank blank → EndsNumber rest →
    2 * (v.prettyAt level).toList.length < fuel →
    Gives (v.depth < d) v.sorted rest
      (readValue d fuel (blank ++ ((v.prettyAt level).toList ++ rest)))

/-- A value without brackets is read wherever its text is. -/
theorem isRead_of_scalar {v : Json} (hdepth : v.depth = 0)
    (hread : ∀ d level fuel rest, EndsNumber rest →
      readValue d (fuel + 1) ((v.prettyAt level).toList ++ rest) = .ok (v.sorted, rest)) :
    IsRead v := by
  intro d level fuel blank rest hd hblank hrest hfuel
  obtain ⟨fuel, rfl⟩ := Nat.exists_eq_succ_of_ne_zero (Nat.ne_of_gt (Nat.zero_lt_of_lt hfuel))
  constructor
  · intro _
    rw [← readValue_skipSpace, skipSpace_append hblank, readValue_skipSpace]
    exact hread d level fuel rest hrest
  · intro hdeep
    exact absurd (hdepth ▸ hd) hdeep

theorem isRead_null : IsRead null := by
  refine isRead_of_scalar rfl fun d level fuel rest _ => ?_
  have htext : (prettyAt level null).toList = ['n', 'u', 'l', 'l'] := by simp [prettyAt]
  rw [htext]
  rfl

theorem isRead_bool (b : Bool) : IsRead (bool b) := by
  refine isRead_of_scalar rfl fun d level fuel rest _ => ?_
  cases b with
  | false =>
    have htext : (prettyAt level (bool false)).toList = ['f', 'a', 'l', 's', 'e'] := by
      simp [prettyAt]
    rw [htext]
    rfl
  | true =>
    have htext : (prettyAt level (bool true)).toList = ['t', 'r', 'u', 'e'] := by simp [prettyAt]
    rw [htext]
    rfl

theorem isRead_string (s : String) : IsRead (string s) := by
  refine isRead_of_scalar rfl fun d level fuel rest _ => ?_
  rw [prettyAt, toList_quoted, List.cons_append, List.append_assoc]
  change (readText (s.toList.flatMap quotedChar ++ '"' :: rest)).map _ = _
  rw [readText_quoted]
  rfl

theorem readValue_minus (d fuel : Nat) (cs : List Char) :
    readValue d (fuel + 1) ('-' :: cs) = readNumber false cs := rfl

theorem isSpace_of_isDigit {c : Char} (hc : c.isDigit = true) : isSpace c = false := by
  simp only [isSpace, Bool.or_eq_false_iff, beq_eq_false_iff_ne]
  refine ⟨⟨⟨?_, ?_⟩, ?_⟩, ?_⟩
  all_goals
    rintro rfl
    cases hc

theorem readValue_digit {c : Char} (hc : c.isDigit = true) (d fuel : Nat) (cs : List Char) :
    readValue d (fuel + 1) (c :: cs) = readNumber true (c :: cs) := by
  rw [readValue, skipSpace_cons (isSpace_of_isDigit hc)]
  split
  all_goals
    rename_i heq
    cases heq
  case h_9 => rw [if_pos hc]
  all_goals cases hc

theorem isRead_int {i : Int} (low : -(twoTo 63 : Int) ≤ i) (high : i < twoTo 64) :
    IsRead (int i) := by
  refine isRead_of_scalar rfl fun d level fuel rest hrest => ?_
  cases i with
  | ofNat n =>
    have hle : n ≤ maxWord := by
      have hlt : n < twoTo 64 := Int.ofNat_lt.mp high
      exact Nat.le_sub_one_of_lt hlt
    have htext : (prettyAt level (int (Int.ofNat n))).toList = Nat.toDigits 10 n :=
      Nat.toList_repr
    have hread : readNumber true (Nat.toDigits 10 n ++ rest) = .ok (int n, rest) :=
      readNumber_append hrest (readNumber_toDigits true hle)
    cases hds : Nat.toDigits 10 n with
    | nil => exact absurd hds Nat.toDigits_ne_nil
    | cons c cs =>
      have hc : c.isDigit = true := Nat.isDigit_of_mem_toDigits (by decide) (by decide)
        (hds ▸ List.mem_cons_self)
      rw [hds] at htext hread
      rw [htext, List.cons_append, readValue_digit hc]
      exact hread
  | negSucc m =>
    have hle : m + 1 ≤ twoTo 63 := by
      have hneg : Int.negSucc m = -((m + 1 : Nat) : Int) := rfl
      omega
    have htext : (prettyAt level (int (Int.negSucc m))).toList
        = '-' :: Nat.toDigits 10 (m + 1) := by
      change ("-" ++ Nat.repr (m + 1)).toList = _
      simp
    have hword : m + 1 ≤ maxWord := Nat.le_trans hle (by decide)
    have hwhole : whole false (m + 1) [] = .ok (int (Int.negSucc m), []) := by
      have hlarge : ¬ (m + 1 = 0 ∨ twoTo 63 < m + 1) := by omega
      rw [whole, if_neg (by decide), if_neg hlarge]
      rfl
    rw [htext, List.cons_append, readValue_minus]
    exact readNumber_append hrest ((readNumber_toDigits false hword).trans hwhole)

theorem map_ne_float {α : Type} {e : Except Refusal α} {f : α → Json × List Char} {x : Float}
    (hf : ∀ a, (f a).1 ≠ float x) (rest : List Char) : e.map f ≠ .ok (float x, rest) := by
  intro h
  cases e with
  | error r => cases h
  | ok a =>
    have hfa : f a = (float x, rest) := Except.ok.inj h
    exact hf a (congrArg Prod.fst hfa)

/-- A double that is read back begins with a sign or a digit and is read as a number. -/
theorem ReadsBack.exists_number {x : Float} (h : ReadsBack x) :
    ∃ c cs, skipSpace (floatText x).toList = c :: cs ∧
      ((c = '-' ∧ readNumber false cs = .ok (float x, [])) ∨
        (c.isDigit = true ∧ readNumber true (c :: cs) = .ok (float x, []))) := by
  rw [ReadsBack, readValue] at h
  split at h
  · cases h
  · exact absurd h (map_ne_float (by rintro a ⟨⟩) [])
  · exact absurd h (map_ne_float (by rintro a ⟨⟩) [])
  · exact absurd h (map_ne_float (by rintro a ⟨⟩) [])
  · rename_i cs heq
    exact ⟨'-', cs, heq, Or.inl ⟨rfl, h⟩⟩
  · exact absurd h (map_ne_float (by rintro a ⟨⟩) [])
  · cases h
  · cases h
  · rename_i c cs _ _ _ _ _ _ _ heq
    split at h
    · rename_i hc
      exact ⟨c, cs, heq, Or.inr ⟨hc, h⟩⟩
    · cases h

theorem skipSpace_append_of_cons {cs : List Char} {c : Char} {t : List Char}
    (h : skipSpace cs = c :: t) (rest : List Char) : skipSpace (cs ++ rest) = c :: (t ++ rest) := by
  induction cs with
  | nil => cases h
  | cons d cs ih =>
    by_cases hd : isSpace d = true
    · rw [skipSpace, List.dropWhile_cons, if_pos hd] at h
      rw [List.cons_append, skipSpace, List.dropWhile_cons, if_pos hd]
      exact ih h
    · rw [skipSpace_cons (Bool.eq_false_iff.mpr hd)] at h
      cases h
      rw [List.cons_append, skipSpace_cons (Bool.eq_false_iff.mpr hd)]

theorem isRead_float {x : Float} (h : ReadsBack x) : IsRead (float x) := by
  refine isRead_of_scalar rfl fun d level fuel rest hrest => ?_
  obtain ⟨c, cs, hskip, hread⟩ := h.exists_number
  have htext : skipSpace ((prettyAt level (float x)).toList ++ rest) = c :: (cs ++ rest) :=
    skipSpace_append_of_cons hskip rest
  rw [← readValue_skipSpace, htext]
  rcases hread with ⟨rfl, hread⟩ | ⟨hc, hread⟩
  · rw [readValue_minus]
    exact readNumber_append hrest hread
  · rw [readValue_digit hc]
    exact readNumber_append hrest hread

/-- What a value is read from begins with no closing bracket: the reader would refuse that for
another reason. -/
theorem Gives.exists_skipSpace {fine : Prop} {v : Json} {rest : List Char} {d fuel : Nat}
    {cs : List Char} (h : Gives fine v rest (readValue d (fuel + 1) cs)) :
    ∃ c t, skipSpace cs = c :: t ∧ c ≠ ']' ∧ c ≠ '\x7d' := by
  have hcause : ∀ r, readValue d (fuel + 1) cs = .error r → r.cause = .recursionLimit := by
    intro r hr
    by_cases hfine : fine
    · rw [h.1 hfine] at hr
      cases hr
    · obtain ⟨r', hr', hcause⟩ := h.2 hfine
      rw [hr'] at hr
      cases hr
      exact hcause
  rw [readValue] at hcause
  cases hskip : skipSpace cs with
  | nil =>
    rw [hskip] at hcause
    cases hcause _ rfl
  | cons c t =>
    rw [hskip] at hcause
    refine ⟨c, t, rfl, ?_, ?_⟩
    · rintro rfl
      cases hcause _ rfl
    · rintro rfl
      cases hcause _ rfl

/-- A bracket is read if the limit allows for it and what stands within is read. -/
theorem Gives.bracket {α : Type} {d n : Nat} {a : α} {rest cs : List Char} (f : α → Json)
    {inner : Except Refusal (α × List Char)} (h : 1 < d → Gives (n < d - 1) a rest inner) :
    Gives (n + 1 < d) (f a) rest
      (if d ≤ 1 then refuseNext .recursionLimit cs else inner.map fun (a, r) => (f a, r)) := by
  by_cases hlimit : d ≤ 1
  · rw [if_pos hlimit]
    exact ⟨fun hfine => absurd hlimit (by omega), fun _ => ⟨_, rfl, rfl⟩⟩
  · rw [if_neg hlimit]
    obtain ⟨hfine, hdeep⟩ := h (by omega)
    constructor
    · intro hn
      rw [hfine (by omega)]
      rfl
    · intro hn
      obtain ⟨r, hr, hcause⟩ := hdeep (by omega)
      rw [hr]
      exact ⟨r, rfl, hcause⟩

/-! ## Lists -/

theorem readItems_first {cs t : List Char} {c : Char} (hskip : skipSpace cs = c :: t)
    (hc : c ≠ ']') (d : Nat) (done : List Json) (fuel : Nat) :
    readItems d true done (fuel + 1) cs =
      match readValue d fuel (c :: t) with
      | .error e => .error e
      | .ok (v, rest) => readItems d false (v :: done) fuel rest := by
  rw [readItems, hskip]
  cases hread : readValue d fuel (c :: t) with
  | error e => simp only [↓reduceIte, hread]
  | ok p => simp only [↓reduceIte, hread]

theorem readItems_next {cs t : List Char} {c : Char} (hskip : skipSpace cs = c :: t)
    (hc : c ≠ ']') (d : Nat) (done : List Json) (fuel : Nat) :
    readItems d false done (fuel + 1) (',' :: cs) =
      match readValue d fuel (c :: t) with
      | .error e => .error e
      | .ok (v, rest) => readItems d false (v :: done) fuel rest := by
  rw [readItems, skipSpace_cons rfl]
  cases hread : readValue d fuel (c :: t) with
  | error e =>
    simp only [Char.reduceEq, imp_self, Bool.false_eq_true, ↓reduceIte, hskip, List.cons.injEq, hc,
      false_and, implies_true, hread]
  | ok p =>
    simp only [Char.reduceEq, imp_self, Bool.false_eq_true, ↓reduceIte, hskip, List.cons.injEq, hc,
      false_and, implies_true, hread]

theorem readItems_last {cs rest : List Char} (hskip : skipSpace cs = ']' :: rest) (d : Nat)
    (first : Bool) (done : List Json) (fuel : Nat) :
    readItems d first done (fuel + 1) cs = .ok (done.reverse, rest) := by
  rw [readItems, hskip]
  rfl

/-- An element and those after it: all must be fine. -/
theorem Gives.readItems {d fuel : Nat} {v : Json} {items done : List Json}
    {cs more rest : List Char} (hv : Gives (v.depth < d) v.sorted more (readValue d fuel cs))
    (hitems : Gives (depthItems items < d) ((v.sorted :: done).reverse ++ sortedItems items) rest
      (Json.readItems d false (v.sorted :: done) fuel more)) :
    Gives (depthItems (v :: items) < d) (done.reverse ++ sortedItems (v :: items)) rest
      (match readValue d fuel cs with
        | .error e => .error e
        | .ok (v, rest) => Json.readItems d false (v :: done) fuel rest) := by
  have hsorted : done.reverse ++ sortedItems (v :: items)
      = (v.sorted :: done).reverse ++ sortedItems items := by simp [sortedItems]
  rw [hsorted, depthItems]
  by_cases hdepth : v.depth < d
  · rw [hv.1 hdepth]
    refine ⟨fun hfine => hitems.1 (by omega), fun hdeep => hitems.2 (by omega)⟩
  · obtain ⟨r, hr, hcause⟩ := hv.2 hdepth
    rw [hr]
    exact ⟨fun hfine => absurd (by omega) hdepth, fun _ => ⟨r, rfl, hcause⟩⟩

theorem readItems_following {items : List Json} (hread : ∀ v ∈ items, IsRead v) {d : Nat}
    (hd : 0 < d) (level : Nat) (done : List Json) {fuel : Nat} (rest : List Char)
    (hfuel : 2 * (following level (prettyItems (level + 1) items)).length < fuel) :
    Gives (depthItems items < d) (done.reverse ++ sortedItems items) rest
      (readItems d false done fuel
        (following level (prettyItems (level + 1) items) ++ ']' :: rest)) := by
  induction items generalizing done fuel with
  | nil =>
    obtain ⟨fuel, rfl⟩ := Nat.exists_eq_succ_of_ne_zero (Nat.ne_of_gt (Nat.zero_lt_of_lt hfuel))
    have hskip : skipSpace (following level (prettyItems (level + 1) []) ++ ']' :: rest)
        = ']' :: rest := skipSpace_append (isBlank_lineBreak level) _
    refine ⟨fun _ => ?_, fun hdeep => absurd hd hdeep⟩
    rw [sortedItems, List.append_nil]
    exact readItems_last hskip d false done fuel
  | cons v items ih =>
    obtain ⟨fuel, rfl⟩ := Nat.exists_eq_succ_of_ne_zero (Nat.ne_of_gt (Nat.zero_lt_of_lt hfuel))
    have htext : following level (prettyItems (level + 1) (v :: items)) ++ ']' :: rest
        = ',' :: ((lineBreak (level + 1)).toList ++ ((v.prettyAt (level + 1)).toList
          ++ (following level (prettyItems (level + 1) items) ++ ']' :: rest))) := by
      simp [following, prettyItems]
    have hlength : (following level (prettyItems (level + 1) (v :: items))).length
        = 1 + (lineBreak (level + 1)).toList.length + (v.prettyAt (level + 1)).toList.length
          + (following level (prettyItems (level + 1) items)).length := by
      simp [following, prettyItems]
      omega
    have hv := hread v List.mem_cons_self d (level + 1) fuel (lineBreak (level + 1)).toList
      (following level (prettyItems (level + 1) items) ++ ']' :: rest) hd
      (isBlank_lineBreak (level + 1)) (endsNumber_following _ _ _) (by omega)
    obtain ⟨fuel, rfl⟩ : ∃ n, fuel = n + 1 := ⟨fuel - 1, by omega⟩
    obtain ⟨c, t, hskip, hc, -⟩ := hv.exists_skipSpace
    rw [htext, readItems_next hskip hc, ← hskip, readValue_skipSpace]
    exact hv.readItems (ih (fun w hw => hread w (List.mem_cons_of_mem _ hw)) (v.sorted :: done)
      (by omega))

theorem readItems_prettyItems {v : Json} {items : List Json}
    (hread : ∀ w ∈ v :: items, IsRead w) {d : Nat} (hd : 0 < d) (level : Nat) {fuel : Nat}
    (rest : List Char)
    (hfuel : 2 * ((v.prettyAt (level + 1)).toList.length
      + (following level (prettyItems (level + 1) items)).length) + 1 < fuel) :
    Gives (depthItems (v :: items) < d) (sortedItems (v :: items)) rest
      (readItems d true [] fuel ((lineBreak (level + 1)).toList ++
        ((v.prettyAt (level + 1)).toList
          ++ (following level (prettyItems (level + 1) items) ++ ']' :: rest)))) := by
  obtain ⟨fuel, rfl⟩ : ∃ n, fuel = n + 2 := ⟨fuel - 2, by omega⟩
  have hv := hread v List.mem_cons_self d (level + 1) (fuel + 1) (lineBreak (level + 1)).toList
    (following level (prettyItems (level + 1) items) ++ ']' :: rest) hd
    (isBlank_lineBreak (level + 1)) (endsNumber_following _ _ _) (by omega)
  obtain ⟨c, t, hskip, hc, -⟩ := hv.exists_skipSpace
  rw [readItems_first hskip hc, ← hskip, readValue_skipSpace]
  exact hv.readItems (readItems_following (fun w hw => hread w (List.mem_cons_of_mem _ hw)) hd level
    [v.sorted] rest (by omega))

theorem readValue_array (d fuel : Nat) (cs : List Char) :
    readValue d (fuel + 1) ('[' :: cs) =
      if d ≤ 1 then refuseNext .recursionLimit ('[' :: cs)
      else (readItems (d - 1) true [] fuel cs).map fun (vs, r) => (array vs, r) := rfl

/-- A list is read if its elements are, one bracket further in. -/
theorem isRead_array {items : List Json} (hread : ∀ v ∈ items, IsRead v) :
    IsRead (array items) := by
  intro d level fuel blank rest hd hblank hrest hfuel
  obtain ⟨fuel, rfl⟩ := Nat.exists_eq_succ_of_ne_zero (Nat.ne_of_gt (Nat.zero_lt_of_lt hfuel))
  rw [← readValue_skipSpace, skipSpace_append hblank, readValue_skipSpace]
  cases items with
  | nil =>
    have htext : ((array []).prettyAt level).toList = ['[', ']'] := by
      simp [prettyAt, prettyItems, bracketed]
    rw [htext, List.length_cons, List.length_singleton] at hfuel
    obtain ⟨fuel, rfl⟩ : ∃ n, fuel = n + 1 := ⟨fuel - 1, by omega⟩
    rw [htext, List.cons_append, readValue_array]
    refine Gives.bracket array fun hlimit => ⟨fun _ => ?_, fun hdeep => ?_⟩
    · exact readItems_last (skipSpace_cons rfl rest) (d - 1) true [] fuel
    · exact absurd (Nat.sub_pos_of_lt hlimit) hdeep
  | cons v items =>
    have htext : ((array (v :: items)).prettyAt level).toList
        = '[' :: ((lineBreak (level + 1)).toList ++ ((v.prettyAt (level + 1)).toList
          ++ (following level (prettyItems (level + 1) items) ++ [']']))) := by
      rw [prettyAt, prettyItems, toList_bracketed]
      rfl
    have hlength := congrArg List.length htext
    simp only [List.length_cons, List.length_append] at hlength
    rw [htext, List.cons_append, readValue_array]
    refine Gives.bracket array fun hlimit => ?_
    simp only [List.append_assoc, List.cons_append, List.nil_append]
    exact readItems_prettyItems hread (by omega) level rest (by omega)

/-! ## Objects -/

theorem readMembers_last {cs rest : List Char} (hskip : skipSpace cs = '\x7d' :: rest) (d : Nat)
    (first : Bool) (done : Fields) (fuel : Nat) :
    readMembers d first done (fuel + 1) cs = .ok (done, rest) := by
  rw [readMembers, hskip]
  rfl

theorem readMembers_first {cs more : List Char} {key : String}
    (hskip : skipSpace cs = '"' :: (key.toList.flatMap quotedChar ++ '"' :: ':' :: more))
    (d : Nat) (done : Fields) (fuel : Nat) :
    readMembers d true done (fuel + 1) cs =
      match readValue d fuel more with
      | .error e => .error e
      | .ok (v, rest) => readMembers d false (done.set key v) fuel rest := by
  have hcolon : skipSpace (':' :: more) = ':' :: more := skipSpace_cons rfl more
  rw [readMembers, hskip]
  cases hread : readValue d fuel more with
  | error e => simp only [Char.reduceEq, imp_self, ↓reduceIte, readText_quoted, hcolon, hread]
  | ok p => simp only [Char.reduceEq, imp_self, ↓reduceIte, readText_quoted, hcolon, hread]

theorem readMembers_next {cs more : List Char} {key : String}
    (hskip : skipSpace cs = '"' :: (key.toList.flatMap quotedChar ++ '"' :: ':' :: more))
    (d : Nat) (done : Fields) (fuel : Nat) :
    readMembers d false done (fuel + 1) (',' :: cs) =
      match readValue d fuel more with
      | .error e => .error e
      | .ok (v, rest) => readMembers d false (done.set key v) fuel rest := by
  have hcolon : skipSpace (':' :: more) = ':' :: more := skipSpace_cons rfl more
  rw [readMembers, skipSpace_cons rfl]
  cases hread : readValue d fuel more with
  | error e =>
    simp only [Char.reduceEq, imp_self, Bool.false_eq_true, ↓reduceIte, hskip, List.cons.injEq,
      false_and, implies_true, readText_quoted, hcolon, hread]
  | ok p =>
    simp only [Char.reduceEq, imp_self, Bool.false_eq_true, ↓reduceIte, hskip, List.cons.injEq,
      false_and, implies_true, readText_quoted, hcolon, hread]

/-- A member and those after it: all must be fine. -/
theorem Gives.readMembers {d fuel : Nat} {key : String} {v : Json} {fields done : Fields}
    {cs more rest : List Char} (hv : Gives (v.depth < d) v.sorted more (readValue d fuel cs))
    (hfields : Gives (depthFields fields < d)
      ((sortedFields fields).foldl (fun fields p => fields.set p.1 p.2) (done.set key v.sorted))
      rest (Json.readMembers d false (done.set key v.sorted) fuel more)) :
    Gives (depthFields ((key, v) :: fields) < d)
      ((sortedFields ((key, v) :: fields)).foldl (fun fields p => fields.set p.1 p.2) done) rest
      (match readValue d fuel cs with
        | .error e => .error e
        | .ok (v, rest) => Json.readMembers d false (done.set key v) fuel rest) := by
  rw [sortedFields, List.foldl_cons, depthFields]
  by_cases hdepth : v.depth < d
  · rw [hv.1 hdepth]
    refine ⟨fun hfine => hfields.1 (by omega), fun hdeep => hfields.2 (by omega)⟩
  · obtain ⟨r, hr, hcause⟩ := hv.2 hdepth
    rw [hr]
    exact ⟨fun hfine => absurd (by omega) hdepth, fun _ => ⟨r, rfl, hcause⟩⟩

/-- A member as it stands in a text. -/
theorem skipSpace_member {blank : List Char} (hblank : IsBlank blank) (key : String) (v : Json)
    (level : Nat) (more : List Char) :
    skipSpace (blank ++ ((quoted key ++ ": " ++ v.prettyAt level).toList ++ more))
      = '"' :: (key.toList.flatMap quotedChar ++ '"' :: ':' ::
        ([' '] ++ ((v.prettyAt level).toList ++ more))) := by
  have hmember : (quoted key ++ ": " ++ v.prettyAt level).toList
      = '"' :: (key.toList.flatMap quotedChar ++ '"' :: ':' ::
        ([' '] ++ (v.prettyAt level).toList)) := by
    simp [toList_quoted]
  rw [skipSpace_append hblank, hmember, List.cons_append, skipSpace_cons rfl]
  simp

theorem isBlank_space : IsBlank [' '] := by
  simp [IsBlank, isSpace]

theorem length_member (key : String) (v : Json) (level : Nat) :
    (v.prettyAt level).toList.length + 2
      ≤ (quoted key ++ ": " ++ v.prettyAt level).toList.length := by
  simp only [String.toList_append, List.length_append, toList_quoted, List.length_cons]
  omega

theorem readMembers_following {fields : Fields} (hread : ∀ p ∈ fields, IsRead p.2) {d : Nat}
    (hd : 0 < d) (level : Nat) (done : Fields) {fuel : Nat} (rest : List Char)
    (hfuel : 2 * (following level (prettyFields (level + 1) fields)).length < fuel) :
    Gives (depthFields fields < d)
      ((sortedFields fields).foldl (fun fields p => fields.set p.1 p.2) done) rest
      (readMembers d false done fuel
        (following level (prettyFields (level + 1) fields) ++ '\x7d' :: rest)) := by
  induction fields generalizing done fuel with
  | nil =>
    obtain ⟨fuel, rfl⟩ := Nat.exists_eq_succ_of_ne_zero (Nat.ne_of_gt (Nat.zero_lt_of_lt hfuel))
    have hskip : skipSpace (following level (prettyFields (level + 1) []) ++ '\x7d' :: rest)
        = '\x7d' :: rest := skipSpace_append (isBlank_lineBreak level) _
    refine ⟨fun _ => ?_, fun hdeep => absurd hd hdeep⟩
    exact readMembers_last hskip d false done fuel
  | cons p fields ih =>
    obtain ⟨key, v⟩ := p
    have hvalue : IsRead v := hread (key, v) List.mem_cons_self
    obtain ⟨fuel, rfl⟩ := Nat.exists_eq_succ_of_ne_zero (Nat.ne_of_gt (Nat.zero_lt_of_lt hfuel))
    have htext : following level (prettyFields (level + 1) ((key, v) :: fields)) ++ '\x7d' :: rest
        = ',' :: ((lineBreak (level + 1)).toList ++ ((quoted key ++ ": "
          ++ v.prettyAt (level + 1)).toList
            ++ (following level (prettyFields (level + 1) fields) ++ '\x7d' :: rest))) := by
      simp [following, prettyFields]
    have hlength : (following level (prettyFields (level + 1) ((key, v) :: fields))).length
        = 1 + (lineBreak (level + 1)).toList.length
          + (quoted key ++ ": " ++ v.prettyAt (level + 1)).toList.length
          + (following level (prettyFields (level + 1) fields)).length := by
      simp [following, prettyFields]
      omega
    have hmember := length_member key v (level + 1)
    have hv := hvalue d (level + 1) fuel [' ']
      (following level (prettyFields (level + 1) fields) ++ '\x7d' :: rest) hd isBlank_space
      (endsNumber_following _ _ _) (by omega)
    rw [htext, readMembers_next (skipSpace_member (isBlank_lineBreak (level + 1)) key v _ _)]
    exact hv.readMembers (ih (fun p hp => hread p (List.mem_cons_of_mem _ hp))
      (done.set key v.sorted) (by omega))

theorem readMembers_prettyFields {key : String} {v : Json} {fields : Fields}
    (hread : ∀ p ∈ (key, v) :: fields, IsRead p.2) {d : Nat} (hd : 0 < d) (level : Nat) {fuel : Nat}
    (rest : List Char)
    (hfuel : 2 * ((quoted key ++ ": " ++ v.prettyAt (level + 1)).toList.length
      + (following level (prettyFields (level + 1) fields)).length) + 1 < fuel) :
    Gives (depthFields ((key, v) :: fields) < d) (Fields.ofList (sortedFields ((key, v) :: fields)))
      rest (readMembers d true [] fuel ((lineBreak (level + 1)).toList ++
        ((quoted key ++ ": " ++ v.prettyAt (level + 1)).toList
          ++ (following level (prettyFields (level + 1) fields) ++ '\x7d' :: rest)))) := by
  obtain ⟨fuel, rfl⟩ : ∃ n, fuel = n + 1 := ⟨fuel - 1, by omega⟩
  have hvalue : IsRead v := hread (key, v) List.mem_cons_self
  have hmember := length_member key v (level + 1)
  have hv := hvalue d (level + 1) fuel [' ']
    (following level (prettyFields (level + 1) fields) ++ '\x7d' :: rest) hd isBlank_space
    (endsNumber_following _ _ _) (by omega)
  rw [readMembers_first (skipSpace_member (isBlank_lineBreak (level + 1)) key v _ _)]
  exact hv.readMembers (readMembers_following (fun p hp => hread p (List.mem_cons_of_mem _ hp)) hd
    level (Fields.set key v.sorted []) rest (by omega))

theorem readValue_object (d fuel : Nat) (cs : List Char) :
    readValue d (fuel + 1) ('\x7b' :: cs) =
      if d ≤ 1 then refuseNext .recursionLimit ('\x7b' :: cs)
      else (readMembers (d - 1) true [] fuel cs).map fun (ms, r) => (object ms, r) := rfl

/-- An object is read if the values of its members are, one bracket further in. -/
theorem isRead_object {fields : Fields} (hread : ∀ p ∈ fields, IsRead p.2) :
    IsRead (object fields) := by
  intro d level fuel blank rest hd hblank hrest hfuel
  obtain ⟨fuel, rfl⟩ := Nat.exists_eq_succ_of_ne_zero (Nat.ne_of_gt (Nat.zero_lt_of_lt hfuel))
  rw [← readValue_skipSpace, skipSpace_append hblank, readValue_skipSpace]
  cases fields with
  | nil =>
    have htext : ((object []).prettyAt level).toList = ['\x7b', '\x7d'] := by
      simp [prettyAt, prettyFields, bracketed]
    rw [htext, List.length_cons, List.length_singleton] at hfuel
    obtain ⟨fuel, rfl⟩ : ∃ n, fuel = n + 1 := ⟨fuel - 1, by omega⟩
    rw [htext, List.cons_append, readValue_object]
    refine Gives.bracket object fun hlimit => ⟨fun _ => ?_, fun hdeep => ?_⟩
    · exact readMembers_last (skipSpace_cons rfl rest) (d - 1) true [] fuel
    · exact absurd (Nat.sub_pos_of_lt hlimit) hdeep
  | cons p fields =>
    obtain ⟨key, v⟩ := p
    have htext : ((object ((key, v) :: fields)).prettyAt level).toList
        = '\x7b' :: ((lineBreak (level + 1)).toList
          ++ ((quoted key ++ ": " ++ v.prettyAt (level + 1)).toList
            ++ (following level (prettyFields (level + 1) fields) ++ ['\x7d']))) := by
      rw [prettyAt, prettyFields, toList_bracketed]
      rfl
    have hlength := congrArg List.length htext
    simp only [List.length_cons, List.length_append] at hlength
    rw [htext, List.cons_append, readValue_object]
    refine Gives.bracket object fun hlimit => ?_
    simp only [List.append_assoc, List.cons_append, List.nil_append]
    exact readMembers_prettyFields hread (by omega) level rest (by omega)

/-! ## Documents -/

theorem isRead {v : Json} (hfits : v.Fits) (hlegible : v.Legible) : IsRead v := by
  induction hfits with
  | null => exact isRead_null
  | bool b => exact isRead_bool b
  | int i low high => exact isRead_int low high
  | float x =>
    cases hlegible with
    | float x readsBack => exact isRead_float readsBack
  | string s => exact isRead_string s
  | array items _ ih =>
    cases hlegible with
    | array items each => exact isRead_array fun v hv => ih v hv (each v hv)
  | object fields _ ih =>
    cases hlegible with
    | object fields each => exact isRead_object fun p hp => ih p hp (each p hp)

/-- The indented text of a value is read as the value, in order, if it is not nested too deeply; the
reader refuses it for its depth otherwise. -/
theorem parse_pretty {v : Json} (hfits : v.Fits) (hlegible : v.Legible) :
    (v.depth < depthLimit → parse v.pretty = .ok v.sorted) ∧
      (¬ v.depth < depthLimit → ∃ place, parse v.pretty = .error (.recursionLimit, place)) := by
  have hread := isRead hfits hlegible depthLimit 0 (2 * v.pretty.toList.length + 2) [] []
    (by decide) (by simp [IsBlank]) endsNumber_nil (by rw [pretty]; omega)
  rw [List.nil_append, List.append_nil] at hread
  change Gives _ _ _
    (readValue depthLimit (2 * v.pretty.toList.length + 2) v.pretty.toList) at hread
  constructor
  · intro hdepth
    simp only [parse, hread.1 hdepth]
    rfl
  · intro hdepth
    obtain ⟨r, hr, hcause⟩ := hread.2 hdepth
    simp only [parse, hr]
    exact ⟨_, congrArg Except.error (congrArg (·, _) hcause)⟩

end NavigationBar.Json
