import Mathlib.Data.List.Infix
import Mathlib.Data.List.TakeWhile
import NavigationBar.Template.Delimiter

/-!
# The body of a template

Blanks around a template, and blanks between its delimiters and what they enclose, do not show in
its body. Brackets at the edges of what is enclosed run together with the delimiters where no blank
stands between them; three of them go all the same, and as many are left of the run as would be left
of it alone. So the body is what is enclosed if that holds no delimiter itself.
-/

namespace NavigationBar

namespace Text

variable {w : List Char}

/-- Every character is blank. -/
def AllBlank (w : List Char) : Prop :=
  ∀ c ∈ w, isBlank c = true

theorem trim_blank_append (hw : AllBlank w) (cs : List Char) :
    trim (w ++ cs) = trim cs :=
  congrArg trimEnd (List.dropWhile_append_of_pos hw)

theorem trimEnd_append_blank (hw : AllBlank w) (cs : List Char) :
    trimEnd (cs ++ w) = trimEnd cs := by
  have hreverse : AllBlank w.reverse := fun c hc => hw c (List.mem_reverse.mp hc)
  rw [trimEnd, List.reverse_append, List.dropWhile_append_of_pos hreverse]
  rfl

theorem trim_append_blank (hw : AllBlank w) (cs : List Char) :
    trim (cs ++ w) = trim cs := by
  unfold trim trimStart
  rw [List.dropWhile_append]
  split
  · rename_i hempty
    have hcs : cs.dropWhile isBlank = [] := List.isEmpty_iff.mp hempty
    have hblank : w.dropWhile isBlank = [] := List.dropWhile_eq_nil_iff.mpr hw
    rw [hcs, hblank]
  · exact trimEnd_append_blank hw _

/-- A text that neither begins nor ends with a blank stays as it is. -/
theorem trim_eq_self {c d : Char} (hc : isBlank c = false) (hd : isBlank d = false)
    (cs : List Char) : trim (c :: cs ++ [d]) = c :: cs ++ [d] := by
  have hc' : ¬ isBlank c = true := Bool.eq_false_iff.mp hc
  have hd' : ¬ isBlank d = true := Bool.eq_false_iff.mp hd
  have hstart : trimStart (c :: cs ++ [d]) = c :: cs ++ [d] := List.dropWhile_cons_of_neg hc'
  rw [trim, hstart, trimEnd, List.reverse_append, List.reverse_singleton, List.singleton_append,
    List.dropWhile_cons_of_neg hd', List.reverse_cons, List.reverse_reverse]

theorem trim_infix (cs : List Char) : trim cs <:+: cs := by
  have hstart : trimStart cs <:+ cs := List.dropWhile_suffix _
  have hend : trim cs <+: trimStart cs := by
    rw [← List.reverse_suffix, trim, trimEnd, List.reverse_reverse]
    exact List.dropWhile_suffix _
  exact hend.isInfix.trans hstart.isInfix

end Text

namespace Template

/-! ## Erasing three of a character at a time -/

/-- A text without the threes of a character, found from left to right. -/
def eraseThrees (d : Char) : List Char → List Char
  | [] => []
  | c :: cs =>
    if [d, d, d] <+: c :: cs then eraseThrees d (cs.drop 2) else c :: eraseThrees d cs
termination_by cs => cs.length
decreasing_by all_goals grind

variable {d : Char} {cs w : List Char}

theorem eraseThrees_nil : eraseThrees d [] = [] := by
  rw [eraseThrees]

theorem eraseThrees_three (cs : List Char) :
    eraseThrees d (d :: d :: d :: cs) = eraseThrees d cs := by
  rw [eraseThrees, if_pos ⟨cs, rfl⟩]
  rfl

theorem eraseThrees_cons {c : Char} (h : ¬ [d, d, d] <+: c :: cs) :
    eraseThrees d (c :: cs) = c :: eraseThrees d cs := by
  rw [eraseThrees, if_neg h]

/-- What goes by the same equations is the same. -/
theorem eq_eraseThrees {f : List Char → List Char} (hnil : f [] = [])
    (hthree : ∀ rest, f (d :: d :: d :: rest) = f rest)
    (hcons : ∀ c rest, ¬ [d, d, d] <+: c :: rest → f (c :: rest) = c :: f rest)
    (cs : List Char) : f cs = eraseThrees d cs := by
  fun_induction eraseThrees d cs with
  | case1 => exact hnil
  | case2 c cs h ih =>
    obtain ⟨rest, hrest⟩ := h
    obtain ⟨rfl, rfl⟩ := List.cons.inj hrest
    exact (hthree rest).trans ih
  | case3 c cs h ih => rw [hcons c cs h, ih]

theorem eraseOpening_eq (cs : List Char) : eraseOpening cs = eraseThrees '[' cs := by
  refine eq_eraseThrees rfl (fun rest => rfl) (fun c rest h => ?_) cs
  rw [eraseOpening]
  rintro rest' rfl rfl
  exact h ⟨rest', rfl⟩

theorem eraseClosing_eq (cs : List Char) : eraseClosing cs = eraseThrees ']' cs := by
  refine eq_eraseThrees rfl (fun rest => rfl) (fun c rest h => ?_) cs
  rw [eraseClosing]
  rintro rest' rfl rfl
  exact h ⟨rest', rfl⟩

theorem eraseThrees_eq_self (h : ¬ [d, d, d] <:+: cs) : eraseThrees d cs = cs := by
  fun_induction eraseThrees d cs with
  | case1 => rfl
  | case2 c cs hthree ih => exact absurd hthree.isInfix h
  | case3 c cs hthree ih =>
    have hcs : ¬ [d, d, d] <:+: cs := fun hwithin => h (List.infix_cons hwithin)
    rw [ih hcs]

/-! ## Erasing next to other characters -/

/-- Three of a character that stand before another one stand before it. -/
theorem three_prefix_of_append_cons {c : Char} (hc : c ≠ d) {xs ys : List Char}
    (h : [d, d, d] <+: xs ++ c :: ys) : [d, d, d] <+: xs := by
  rcases List.prefix_or_prefix_of_prefix h (List.prefix_append xs (c :: ys)) with hxs | hxs
  · exact hxs
  · obtain ⟨rest, hrest⟩ := hxs
    rw [← hrest, List.prefix_append_right_inj] at h
    rcases rest with _ | ⟨e, rest⟩
    · rw [← hrest, List.append_nil]
    · have hec : e = c := (List.cons_prefix_cons.mp h).1
      have hmem : e ∈ [d, d, d] := hrest ▸ List.mem_append_right xs List.mem_cons_self
      have hed : e = d := by simpa using hmem
      exact absurd (hec.symm.trans hed) hc

/-- Another character keeps what is before it and what is after it apart. -/
theorem eraseThrees_append_cons {c : Char} (hc : c ≠ d) (xs ys : List Char) :
    eraseThrees d (xs ++ c :: ys) = eraseThrees d xs ++ c :: eraseThrees d ys := by
  fun_induction eraseThrees d xs with
  | case1 =>
    have hthree : ¬ [d, d, d] <+: c :: ys := fun h =>
      hc (List.cons_prefix_cons.mp h).1.symm
    exact eraseThrees_cons hthree
  | case2 c₁ xs h ih =>
    obtain ⟨rest, hrest⟩ := h
    obtain ⟨rfl, rfl⟩ := List.cons.inj hrest
    exact (eraseThrees_three _).trans ih
  | case3 c₁ xs h ih =>
    have hthree : ¬ [d, d, d] <+: c₁ :: (xs ++ c :: ys) := fun hfront =>
      h (three_prefix_of_append_cons hc hfront)
    rw [List.cons_append, eraseThrees_cons hthree, ih, List.cons_append]

theorem eraseThrees_append_left (hw : d ∉ w) (cs : List Char) :
    eraseThrees d (w ++ cs) = w ++ eraseThrees d cs := by
  induction w with
  | nil => rfl
  | cons c w ih =>
    obtain ⟨hc, hw⟩ := not_or.mp (List.mem_cons.not.mp hw)
    have hstep := eraseThrees_append_cons (Ne.symm hc) [] (w ++ cs)
    rw [List.nil_append, ih hw] at hstep
    simpa [eraseThrees] using hstep

theorem eraseThrees_append_right (hw : d ∉ w) (cs : List Char) :
    eraseThrees d (cs ++ w) = eraseThrees d cs ++ w := by
  rcases w with _ | ⟨c, w⟩
  · rw [List.append_nil, List.append_nil]
  · obtain ⟨hc, hw⟩ := not_or.mp (List.mem_cons.not.mp hw)
    have htail : eraseThrees d w = w := by
      simpa [eraseThrees] using eraseThrees_append_left hw []
    rw [eraseThrees_append_cons (Ne.symm hc), htail]

/-- A run of the character at the end of a text leaves the same behind if it is longer by three. -/
theorem eraseThrees_append_three (cs : List Char) :
    eraseThrees d (cs ++ [d, d, d]) = eraseThrees d cs := by
  fun_induction eraseThrees d cs with
  | case1 => exact (eraseThrees_three []).trans eraseThrees_nil
  | case2 c cs h ih =>
    obtain ⟨rest, hrest⟩ := h
    obtain ⟨rfl, rfl⟩ := List.cons.inj hrest
    exact (eraseThrees_three _).trans ih
  | case3 c cs h ih =>
    by_cases hthree : [d, d, d] <+: c :: cs ++ [d, d, d]
    · -- Only the character itself is left, so the three may as well stand in front.
      have hshort : c :: cs <+: [d, d, d] :=
        (List.prefix_or_prefix_of_prefix hthree (List.prefix_append _ _)).resolve_left h
      have hall : c :: cs = List.replicate (cs.length + 1) d :=
        List.eq_replicate_of_mem fun e he => by simpa using hshort.subset he
      have hcomm : c :: cs ++ [d, d, d] = d :: d :: d :: c :: cs := by
        change _ = List.replicate 3 d ++ c :: cs
        rw [hall]
        change _ ++ List.replicate 3 d = _
        rw [List.replicate_append_replicate, List.replicate_append_replicate, Nat.add_comm]
      rw [hcomm, eraseThrees_three, eraseThrees_cons h]
    · exact (eraseThrees_cons hthree).trans (congrArg (c :: ·) ih)

/-- The same, with others between the run and the three more. -/
theorem eraseThrees_append_gap (hw : d ∉ w) (cs : List Char) :
    eraseThrees d (cs ++ (w ++ [d, d, d])) = eraseThrees d cs ++ w := by
  rcases w with _ | ⟨c, w⟩
  · rw [List.nil_append, List.append_nil, eraseThrees_append_three]
  · obtain ⟨hc, hw⟩ := not_or.mp (List.mem_cons.not.mp hw)
    have hthree : eraseThrees d [d, d, d] = [] := (eraseThrees_three []).trans eraseThrees_nil
    rw [List.cons_append, eraseThrees_append_cons (Ne.symm hc), eraseThrees_append_left hw, hthree,
      List.append_nil]

/-! ## Templates and their bodies -/

section

variable {w₁ w₂ w₃ w₄ : List Char}

theorem not_mem_of_blank (hw : Text.AllBlank w) (hd : Text.isBlank d = false) : d ∉ w := by
  intro hmem
  rw [hw d hmem] at hd
  cases hd

theorem isDelimited_surrounded (h₁ : Text.AllBlank w₁) (h₄ : Text.AllBlank w₄) (m : List Char) :
    isDelimited (w₁ ++ (opening ++ (m ++ (closing ++ w₄)))) = true := by
  have htrim : Text.trim (w₁ ++ (opening ++ (m ++ (closing ++ w₄))))
      = opening ++ (m ++ closing) := by
    have hsame := @Text.trim_eq_self '[' ']' rfl rfl ('[' :: '[' :: m ++ [']', ']'])
    have hassoc : opening ++ (m ++ (closing ++ w₄)) = (opening ++ (m ++ closing)) ++ w₄ := by
      simp
    rw [Text.trim_blank_append h₁, hassoc, Text.trim_append_blank h₄]
    simpa [opening, closing] using hsame
  rw [isDelimited, htrim]
  simp [List.isPrefixOf_iff_prefix, List.isSuffixOf_iff_suffix, List.suffix_append_of_suffix]

/-- What is left of a template without its delimiters. -/
theorem erase_surrounded (h₁ : Text.AllBlank w₁) (h₂ : Text.AllBlank w₂)
    (h₃ : Text.AllBlank w₃) (h₄ : Text.AllBlank w₄) (b : List Char) :
    eraseClosing (eraseOpening (w₁ ++ (opening ++ (w₂ ++ (b ++ (w₃ ++ (closing ++ w₄))))))) =
      w₁ ++ (w₂ ++ (eraseClosing (eraseOpening b) ++ (w₃ ++ w₄))) := by
  have hopening : ∀ {w}, Text.AllBlank w → '[' ∉ w := fun hw => not_mem_of_blank hw rfl
  have hclosing : ∀ {w}, Text.AllBlank w → ']' ∉ w := fun hw => not_mem_of_blank hw rfl
  have hafter : '[' ∉ w₃ ++ (closing ++ w₄) := by
    simp [hopening h₃, hopening h₄, closing]
  have hopened : eraseThrees '[' (w₁ ++ (opening ++ (w₂ ++ (b ++ (w₃ ++ (closing ++ w₄)))))) =
      w₁ ++ (w₂ ++ (eraseThrees '[' b ++ (w₃ ++ (closing ++ w₄)))) := by
    have hthree : ∀ cs, eraseThrees '[' (opening ++ cs) = eraseThrees '[' cs := eraseThrees_three
    rw [eraseThrees_append_left (hopening h₁), hthree, eraseThrees_append_left (hopening h₂),
      eraseThrees_append_right hafter]
  rw [eraseOpening_eq, eraseClosing_eq, hopened, eraseOpening_eq, eraseClosing_eq,
    eraseThrees_append_left (hclosing h₁), eraseThrees_append_left (hclosing h₂)]
  have hassoc : ∀ cs : List Char,
      cs ++ (w₃ ++ (closing ++ w₄)) = (cs ++ (w₃ ++ closing)) ++ w₄ := by
    intro cs
    simp
  have hgap : ∀ cs, eraseThrees ']' (cs ++ (w₃ ++ closing)) = eraseThrees ']' cs ++ w₃ :=
    eraseThrees_append_gap (hclosing h₃)
  rw [hassoc, eraseThrees_append_right (hclosing h₄), hgap, List.append_assoc]

theorem body?_of_surrounded (h₁ : Text.AllBlank w₁) (h₂ : Text.AllBlank w₂)
    (h₃ : Text.AllBlank w₃) (h₄ : Text.AllBlank w₄) (b : List Char) :
    body? (w₁ ++ (opening ++ (w₂ ++ (b ++ (w₃ ++ (closing ++ w₄)))))) =
      some (Text.trim (eraseClosing (eraseOpening b))) := by
  have hdelimited := isDelimited_surrounded h₁ h₄ (w₂ ++ (b ++ w₃))
  have hassoc : w₂ ++ (b ++ w₃) ++ (closing ++ w₄) = w₂ ++ (b ++ (w₃ ++ (closing ++ w₄))) := by
    simp
  rw [hassoc] at hdelimited
  have hbehind : Text.AllBlank (w₃ ++ w₄) := List.forall_mem_append.mpr ⟨h₃, h₄⟩
  rw [body?, if_pos hdelimited, erase_surrounded h₁ h₂ h₃ h₄, Text.trim_blank_append h₁,
    Text.trim_blank_append h₂, Text.trim_append_blank hbehind]

end

/-- A text that holds no delimiter is no template. -/
theorem isDelimited_eq_false {b : List Char} (h : ¬ opening <:+: b) : isDelimited b = false := by
  rw [Bool.eq_false_iff]
  intro hdelimited
  have hfront : opening <+: Text.trim b :=
    List.isPrefixOf_iff_prefix.mp (Bool.and_eq_true_iff.mp hdelimited).1
  exact h (hfront.isInfix.trans (Text.trim_infix b))

/-- Blanks around a template, and within its delimiters, do not show in its body, whatever stands
between them; and a text without delimiters is, but for the blanks around it, the body of the
template that it is wrapped in. -/
theorem body?_surrounded {w₁ w₂ w₃ w₄ : List Char} (h₁ : Text.AllBlank w₁)
    (h₂ : Text.AllBlank w₂) (h₃ : Text.AllBlank w₃) (h₄ : Text.AllBlank w₄) (b : List Char) :
    body? (w₁ ++ opening ++ w₂ ++ b ++ w₃ ++ closing ++ w₄) = body? (opening ++ b ++ closing) ∧
      (body? (opening ++ b ++ closing)).isSome = true ∧
      (¬ opening <:+: b → ¬ closing <:+: b → body? (wrap b) = some (Text.trim b)) := by
  have hnone : Text.AllBlank [] := List.forall_mem_nil _
  have hplain : body? (opening ++ b ++ closing) =
      some (Text.trim (eraseClosing (eraseOpening b))) := by
    simpa using body?_of_surrounded hnone hnone hnone hnone b
  have hblank : body? (w₁ ++ opening ++ w₂ ++ b ++ w₃ ++ closing ++ w₄) =
      some (Text.trim (eraseClosing (eraseOpening b))) := by
    simpa using body?_of_surrounded h₁ h₂ h₃ h₄ b
  refine ⟨hblank.trans hplain.symm, by rw [hplain]; rfl, fun hopening hclosing => ?_⟩
  have herased : eraseClosing (eraseOpening b) = b := by
    rw [eraseOpening_eq, eraseThrees_eq_self hopening, eraseClosing_eq,
      eraseThrees_eq_self hclosing]
  rw [wrap, isDelimited_eq_false hopening]
  exact hplain.trans (congrArg (fun cs => some (Text.trim cs)) herased)

theorem body?_surrounded_at_brackets :
    Text.AllBlank [' ', '\t'] ∧ Text.AllBlank ['\u3000'] ∧ Text.AllBlank ['\n'] ∧
      Text.AllBlank ['\r'] ∧ ¬ opening <:+: "[x]]".toList ∧ ¬ closing <:+: "[x]]".toList ∧
      body? " \t[[[\u3000[x]]\n]]]\r".toList = body? "[[[[x]]]]]".toList ∧
      body? (wrap "[x]]".toList) = some "[x]]".toList := by
  have h₁ : Text.AllBlank [' ', '\t'] := by simp [Text.AllBlank, Text.isBlank]
  have h₂ : Text.AllBlank ['\u3000'] := by simp [Text.AllBlank, Text.isBlank]
  have h₃ : Text.AllBlank ['\n'] := by simp [Text.AllBlank, Text.isBlank]
  have h₄ : Text.AllBlank ['\r'] := by simp [Text.AllBlank, Text.isBlank]
  have hopening : ¬ opening <:+: "[x]]".toList := by decide
  have hclosing : ¬ closing <:+: "[x]]".toList := by decide
  obtain ⟨hsame, -, hwrap⟩ := body?_surrounded h₁ h₂ h₃ h₄ "[x]]".toList
  exact ⟨h₁, h₂, h₃, h₄, hopening, hclosing, hsame, hwrap hopening hclosing⟩

end Template

end NavigationBar
