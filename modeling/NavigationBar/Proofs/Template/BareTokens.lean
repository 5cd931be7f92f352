import NavigationBar.Proofs.Template.Unfolding

/-!
# Trivia does not matter to conditionals

The rewriting of conditionals looks at the kinds of tokens, at the text of words, and at some
characters next to a token. None of these characters stands at an end of trivia. So two texts whose
tokens differ in the spelling of trivia are rewritten alike, although one of them may have question
marks in its comments and be given more rounds.
-/

namespace NavigationBar.Template

open Token

/-! ## Tokens without the spelling of trivia -/

namespace Token

/-- A token, with a space for all trivia. -/
def bare (t : Token) : Token :=
  if t.kind = .trivia then space else t

theorem bare_of_trivia {t : Token} (h : t.kind = .trivia) : t.bare = space := if_pos h

theorem bare_of_ne_trivia {t : Token} (h : t.kind ≠ .trivia) : t.bare = t := if_neg h

@[simp] theorem kind_bare (t : Token) : t.bare.kind = t.kind := by
  by_cases h : t.kind = .trivia
  · rw [bare_of_trivia h, h]
    rfl
  · rw [bare_of_ne_trivia h]

@[simp] theorem bare_bare (t : Token) : t.bare.bare = t.bare := by
  by_cases h : t.kind = .trivia
  · rw [bare_of_trivia h]
    rfl
  · rw [bare_of_ne_trivia h, bare_of_ne_trivia h]

@[simp] theorem isClosed_bare (t : Token) : t.bare.isClosed = t.isClosed := by
  by_cases h : t.kind = .trivia
  · obtain ⟨kind, text⟩ := t
    cases h
    rfl
  · rw [bare_of_ne_trivia h]

end Token

/-- The tokens of a text up to the spelling of trivia. -/
def bareTokens (cs : List Char) : List Token :=
  (tokens cs).map Token.bare

variable {cs ds : List Char}

theorem significant_eq (cs : List Char) :
    significant cs = (bareTokens cs).filter (·.kind ≠ .trivia) := by
  rw [significant, bareTokens]
  induction tokens cs with
  | nil => rfl
  | cons t ts ih =>
    rw [List.map_cons, List.filter_cons, List.filter_cons, kind_bare, ih]
    split
    · rename_i hk
      rw [bare_of_ne_trivia (by simpa using hk)]
    · rfl

theorem quotesClosed_iff (cs : List Char) :
    QuotesClosed cs ↔ ∀ t ∈ bareTokens cs, t.isClosed = true := by
  simp only [QuotesClosed, bareTokens, List.forall_mem_map, isClosed_bare]

theorem QuotesClosed.congr (h : bareTokens cs = bareTokens ds) (hcs : QuotesClosed cs) :
    QuotesClosed ds := by
  rwa [quotesClosed_iff, ← h, ← quotesClosed_iff]

namespace Placed

/-- The characters that a scan looks at next to a token. -/
def telling : List Char := ['?', '.', '[', ':', '=', '!', '<', '>']

/-- A neighbour of a token if a scan looks at it. -/
def tell (neighbour : Option Char) : Option Char :=
  neighbour.filter telling.contains

theorem tell_beq {c : Char} (hc : c ∈ telling) (neighbour : Option Char) :
    (tell neighbour == some c) = (neighbour == some c) := by
  cases neighbour with
  | none => rfl
  | some d =>
    by_cases hd : d ∈ telling
    · rw [tell, Option.filter_some_pos (by simpa using hd)]
    · have hne : d ≠ c := fun heq => hd (heq ▸ hc)
      rw [tell, Option.filter_some_neg (by simpa using hd)]
      simp [hne]

theorem contains_tell {l : List Char} (h : l.all telling.contains = true)
    (neighbour : Option Char) :
    List.contains (l.map some) (tell neighbour) = List.contains (l.map some) neighbour := by
  induction l with
  | nil => rfl
  | cons c l ih =>
    rw [List.all_cons, Bool.and_eq_true, List.contains_iff_mem] at h
    rw [List.map_cons, List.contains_cons, List.contains_cons, ih h.2, tell_beq h.1]

/-- A token between its neighbours, without what no scan looks at. -/
def bare (p : Placed) : Placed :=
  ⟨tell p.left, p.token.bare, tell p.right⟩

@[simp] theorem isMark_bare (p : Placed) (c : Char) : p.bare.isMark c = p.isMark c := by
  rw [isMark, isMark, bare, kind_bare]

@[simp] theorem isSignificant_bare (p : Placed) : p.bare.isSignificant = p.isSignificant := by
  rw [isSignificant, isSignificant, bare, kind_bare]

@[simp] theorem isQuestion_bare (p : Placed) : p.bare.isQuestion = p.isQuestion := by
  have hleft := tell_beq (c := '?') (by decide) p.left
  have hright := contains_tell (l := ['?', '.', '[']) (by decide) p.right
  simp only [List.map_cons, List.map_nil] at hright
  rw [isQuestion, isQuestion, isMark_bare, bare, bne, bne, hleft, hright]

@[simp] theorem isColon_bare (p : Placed) : p.bare.isColon = p.isColon := by
  have hcolon := tell_beq (c := ':') (by decide)
  rw [isColon, isColon, isMark_bare, bare, bne, bne, bne, bne, hcolon, hcolon]

@[simp] theorem isAssignment_bare (p : Placed) : p.bare.isAssignment = p.isAssignment := by
  have hright := contains_tell (l := ['=', '>']) (by decide) p.right
  have hleft := contains_tell (l := ['=', '!', '<', '>']) (by decide) p.left
  simp only [List.map_cons, List.map_nil] at hright hleft
  rw [isAssignment, isAssignment, isMark_bare, bare, hright, hleft]

@[simp] theorem isOpening_bare (p : Placed) : p.bare.isOpening = p.isOpening := by
  simp [isOpening]

@[simp] theorem isClosing_bare (p : Placed) : p.bare.isClosing = p.isClosing := by
  simp [isClosing]

@[simp] theorem endsCondition_bare (p : Placed) : p.bare.endsCondition = p.endsCondition := by
  have hword : (p.bare.token.kind == .word && outerWords.contains p.bare.token.text) =
      (p.token.kind == .word && outerWords.contains p.token.text) := by
    rw [bare, kind_bare]
    cases hk : p.token.kind == .word with
    | false => rfl
    | true => rw [bare_of_ne_trivia (by simp [beq_iff_eq.mp hk])]
  simp only [endsCondition, isMark_bare, isQuestion_bare, isColon_bare, isAssignment_bare, hword]

@[simp] theorem endsAlternative_bare (p : Placed) : p.bare.endsAlternative = p.endsAlternative := by
  simp [endsAlternative]

end Placed

/-! ## Scans over bare tokens -/

theorem splitCondition_map_bare (depth : Nat) (ps : List Placed) :
    splitCondition depth (ps.map Placed.bare) =
      (splitCondition depth ps).map (List.map Placed.bare) (List.map Placed.bare) := by
  fun_induction splitCondition depth ps <;> simp_all [splitCondition]

theorem splitAlternative_map_bare (depth : Nat) (ps : List Placed) :
    splitAlternative depth (ps.map Placed.bare) =
      (splitAlternative depth ps).map (List.map Placed.bare) (List.map Placed.bare) := by
  fun_induction splitAlternative depth ps <;> simp_all [splitAlternative]

theorem splitColon_map_bare (depth : Nat) (ps : List Placed) :
    splitColon depth (ps.map Placed.bare) =
      (splitColon depth ps).map (Prod.map (List.map Placed.bare) (List.map Placed.bare)) := by
  fun_induction splitColon depth ps with
  | case7 depth p ps ho hc hsemi hcolon ih =>
    rw [List.map_cons, splitColon.eq_def]
    dsimp only
    rw [p.isOpening_bare, if_neg ho, p.isClosing_bare, if_neg hc, p.isMark_bare, if_neg hsemi,
      p.isColon_bare, if_neg hcolon, ih, Option.map_map, Option.map_map]
    rfl
  | _ => simp_all [splitColon, Function.comp_def]

theorem splitTrivia_map_bare (ps : List Placed) :
    splitTrivia (ps.map Placed.bare) =
      (splitTrivia ps).map (List.map Placed.bare) (List.map Placed.bare) := by
  simp [splitTrivia, List.takeWhile_map, List.dropWhile_map, Function.comp_def]

theorem splitQuestion?_map_bare (ps : List Placed) :
    splitQuestion? (ps.map Placed.bare) =
      (splitQuestion? ps).map (Prod.map (List.map Placed.bare) (List.map Placed.bare)) := by
  have hquestion : (fun p => !p.isQuestion) ∘ Placed.bare = fun p => !p.isQuestion := by
    funext p
    simp
  unfold splitQuestion?
  dsimp only
  rw [← List.map_reverse, List.takeWhile_map, List.dropWhile_map, hquestion]
  cases ps.reverse.dropWhile fun p => !p.isQuestion with
  | nil => rfl
  | cons q before => simp

/-- An operand, its tokens bare. -/
def Operand.bare (o : Operand) : Operand :=
  ⟨o.before.map Placed.bare, o.inner.map Placed.bare, o.after.map Placed.bare⟩

theorem operand?_map_bare (ps : List Placed) :
    operand? (ps.map Placed.bare) = (operand? ps).map Operand.bare := by
  unfold operand?
  rw [splitTrivia_map_bare]
  generalize splitTrivia ps = first
  obtain ⟨before, rest⟩ := first
  rw [Prod.map_apply]
  dsimp only
  rw [← List.map_reverse, splitTrivia_map_bare]
  generalize splitTrivia rest.reverse = second
  obtain ⟨after, inner⟩ := second
  rw [Prod.map_apply]
  cases inner with
  | nil => rfl
  | cons p inner => simp [Operand.bare]

/-- The parts of a conditional, their tokens bare. -/
def Parts.bare (p : Parts) : Parts :=
  ⟨p.before.map Placed.bare, p.condition.map Placed.bare, p.consequent.map Placed.bare,
    p.alternative.map Placed.bare, p.after.map Placed.bare⟩

/-- A conditional is found by what is bare of the tokens. -/
theorem parts?_map_bare (ps : List Placed) :
    parts? (ps.map Placed.bare) = (parts? ps).map Parts.bare := by
  unfold parts?
  simp only [splitQuestion?_map_bare, Option.bind_eq_bind, Option.bind_map, Option.map_bind,
    Function.comp_def, Prod.map_fst, Prod.map_snd, splitCondition_map_bare, ← List.map_reverse,
    operand?_map_bare, splitColon_map_bare, splitAlternative_map_bare]
  simp only [Operand.bare, Option.pure_def, Option.map_some, Parts.bare, List.map_append]

/-! ## The ends of trivia -/

theorem tell_of_isBlank {c : Char} (h : Text.isBlank c = true) : Placed.tell (some c) = none := by
  have hnot : c ∉ Placed.telling := not_mem_of_all (by decide) h
  exact Option.filter_some_neg (by simpa using hnot)

theorem tell_slash : Placed.tell (some '/') = none := by decide

theorem tell_of_beginsTrivia {c : Char} {cs : List Char} (h : BeginsTrivia c cs) :
    Placed.tell (some c) = none := by
  rcases h with hblank | ⟨rfl, -⟩
  · exact tell_of_isBlank hblank
  · exact tell_slash

/-- A comment in stars that something follows ends in a slash. -/
theorem getLast?_blockSpan (h : (blockSpan cs).2 ≠ []) : (blockSpan cs).1.getLast? = some '/' := by
  fun_induction blockSpan cs with
  | case1 => exact absurd rfl h
  | case2 => rfl
  | case3 c cs hclose text left hspan ih =>
    rw [hspan] at ih
    exact List.mem_getLast?_cons (ih h)

/-- Trivia that something follows ends in a blank or a slash. -/
theorem tell_getLast?_triviaSpan (h : (triviaSpan cs).2 ≠ []) :
    Placed.tell (triviaSpan cs).1.getLast? = none := by
  fun_induction triviaSpan cs with
  | case1 => exact absurd rfl h
  | case2 cs cut text left hspan ih =>
    rw [hspan] at ih
    have hleft : cut.2 ≠ [] := ne_nil_of_triviaSpan_left (by rwa [hspan])
    obtain ⟨after, hcut, -⟩ := lineSpan_of_left hleft
    have hbreak := triviaSpan_blank (c := '\n') (by decide) after
    rw [hcut, hbreak] at hspan
    have htext : text ≠ [] := by
      rw [← (Prod.mk.inj hspan).1]
      exact List.cons_ne_nil _ _
    rw [List.getLast?_append_of_ne_nil _ htext]
    exact ih h
  | case3 cs cut text left hspan ih =>
    rw [hspan] at ih
    have hleft : cut.2 ≠ [] := ne_nil_of_triviaSpan_left (by rwa [hspan])
    cases text with
    | nil =>
      have hlast := List.mem_getLast?_cons (y := '*') (getLast?_blockSpan hleft)
      rw [List.append_nil, List.mem_getLast?_cons hlast]
      exact tell_slash
    | cons d ds =>
      rw [List.getLast?_append_of_ne_nil _ (List.cons_ne_nil d ds)]
      exact ih h
  | case4 c cs _ _ hb text left hspan ih =>
    rw [hspan] at ih
    cases text with
    | nil => exact tell_of_isBlank hb
    | cons d ds =>
      rw [List.getLast?_cons_of_ne_nil (List.cons_ne_nil d ds)]
      exact ih h
  | case5 => rfl

/-- The end of a token that another one follows tells no more than that of the bare token. -/
theorem Token.IsWhole.tell_getLast? {t : Token} (h : t.IsWhole) :
    Placed.tell t.bare.text.getLast? = Placed.tell t.text.getLast? := by
  by_cases hk : t.kind = .trivia
  · cases h with
    | @trivia c cs hb hskip =>
      have hspan := hskip [')']
      have hnone : triviaSpan [')'] = ([], [')']) :=
        triviaSpan_eq_nil_iff.mpr (not_beginsTrivia (by decide) (by decide) [])
      rw [hnone, List.append_nil] at hspan
      have hleft : (triviaSpan (c :: cs ++ [')'])).2 ≠ [] := by
        rw [hspan]
        exact List.cons_ne_nil _ _
      have hlast := tell_getLast?_triviaSpan hleft
      rw [hspan] at hlast
      rw [hlast]
      rfl
    | quoted | word | mark => cases hk
  · rw [bare_of_ne_trivia hk]

/-- The beginning of a token tells no more than that of the bare token. -/
theorem tell_head? {t : Token} (ht : t ∈ tokens cs) :
    Placed.tell t.bare.text.head? = Placed.tell t.text.head? := by
  by_cases hk : t.kind = .trivia
  · rw [bare_of_trivia hk]
    fun_induction tokens cs with
    | case1 => exact absurd ht List.not_mem_nil
    | case2 c cs ih =>
      rcases List.mem_cons.mp ht with rfl | ht
      · rw [head?_read, tell_of_beginsTrivia (beginsTrivia_of_kind hk)]
        rfl
      · exact ih ht
  · rw [bare_of_ne_trivia hk]

/-- Tokens are placed between neighbours that tell what those of the bare tokens tell. -/
theorem map_bare_place {left left' : Option Char} {ts : List Token}
    (hleft : Placed.tell left = Placed.tell left')
    (hhead : ∀ t ∈ ts, Placed.tell t.bare.text.head? = Placed.tell t.text.head?)
    (hlast : ∀ t ∈ ts.dropLast, Placed.tell t.bare.text.getLast? = Placed.tell t.text.getLast?) :
    (place left ts).map Placed.bare = (place left' (ts.map Token.bare)).map Placed.bare := by
  induction ts generalizing left left' with
  | nil => rfl
  | cons t ts ih =>
    have hnext : Placed.tell (firstChar? ts) = Placed.tell (firstChar? (ts.map Token.bare)) := by
      cases ts with
      | nil => rfl
      | cons u us => exact (hhead u (List.mem_cons_of_mem _ List.mem_cons_self)).symm
    have hrest : (place t.text.getLast? ts).map Placed.bare =
        (place t.bare.text.getLast? (ts.map Token.bare)).map Placed.bare := by
      cases ts with
      | nil => rfl
      | cons u us =>
        rw [List.dropLast_cons_cons, List.forall_mem_cons] at hlast
        exact ih hlast.1.symm (List.forall_mem_cons.mp hhead).2 hlast.2
    rw [List.map_cons, place, place, List.map_cons, List.map_cons, hrest, Placed.bare, Placed.bare,
      hleft, hnext, bare_bare]

/-- What the scans see of a text depends on its bare tokens. -/
theorem map_bare_place_tokens (cs : List Char) :
    (place none (tokens cs)).map Placed.bare = (place none (bareTokens cs)).map Placed.bare := by
  refine map_bare_place rfl (fun t ht => tell_head? ht) fun t ht => ?_
  cases hne : tokens cs with
  | nil =>
    rw [hne] at ht
    cases ht
  | cons u us =>
    have hnil : tokens cs ≠ [] := by
      rw [hne]
      exact List.cons_ne_nil _ _
    have hcut := List.dropLast_append_getLast hnil
    exact (isWhole_of_append hcut.symm (List.cons_ne_nil _ _) t ht).tell_getLast?

/-! ## Texts with the same bare tokens -/

/-- What a step writes depends on what is bare of the parts. -/
theorem QuotesClosed.bareTokens_toText (h : QuotesClosed cs) {p : Parts}
    (hp : p.AreOf (place none (tokens cs))) :
    bareTokens p.toText = p.bare.before.map Placed.token ++ scriptConditional
      (p.bare.condition.map Placed.token) (p.bare.consequent.map Placed.token)
        (p.bare.alternative.map Placed.token) ++ p.bare.after.map Placed.token := by
  have htoken : Token.bare ∘ Placed.token = Placed.token ∘ Placed.bare := rfl
  rw [bareTokens, h.tokens_toText hp]
  simp only [Parts.bare, scriptConditional, List.map_append, List.map_cons, List.map_map, htoken]
  rfl

theorem map_bareTokens_eraseLast? (h : bareTokens cs = bareTokens ds) (hcs : QuotesClosed cs) :
    (eraseLast? cs).map bareTokens = (eraseLast? ds).map bareTokens := by
  have hds := hcs.congr h
  have hparts : (parts? (place none (tokens cs))).map Parts.bare =
      (parts? (place none (tokens ds))).map Parts.bare := by
    rw [← parts?_map_bare, ← parts?_map_bare, map_bare_place_tokens, map_bare_place_tokens, h]
  unfold eraseLast?
  cases hp : parts? (place none (tokens cs)) with
  | none =>
    rw [hp] at hparts
    rw [Option.map_eq_none_iff.mp hparts.symm]
  | some p =>
    rw [hp] at hparts
    obtain ⟨q, hq, hpq⟩ := Option.map_eq_some_iff.mp hparts.symm
    rw [hq, Option.map_some, Option.map_some, Option.map_some, Option.map_some,
      hcs.bareTokens_toText (areOf_of_parts? hp), hds.bareTokens_toText (areOf_of_parts? hq), hpq]

theorem bareTokens_eraseAtMost (h : bareTokens cs = bareTokens ds) (hcs : QuotesClosed cs)
    (n : Nat) : bareTokens (eraseAtMost cs n) = bareTokens (eraseAtMost ds n) := by
  induction n generalizing cs ds with
  | zero => exact h
  | succ n ih =>
    have hlast := map_bareTokens_eraseLast? h hcs
    cases hcs' : eraseLast? cs with
    | none =>
      rw [hcs'] at hlast
      have hds' := Option.map_eq_none_iff.mp hlast.symm
      rw [eraseAtMost_of_eq_none hcs', eraseAtMost_of_eq_none hds', h]
    | some next =>
      rw [hcs'] at hlast
      obtain ⟨next', hds', hnext⟩ := Option.map_eq_some_iff.mp hlast.symm
      rw [eraseAtMost_of_eq_some hcs', eraseAtMost_of_eq_some hds']
      obtain ⟨p, hp, rfl⟩ := Option.map_eq_some_iff.mp hcs'
      exact ih hnext.symm (hcs.toText (areOf_of_parts? hp))

/-- Texts that differ in the spelling of trivia still do so without their conditionals. -/
theorem bareTokens_eraseConditionals (h : bareTokens cs = bareTokens ds) (hcs : QuotesClosed cs) :
    bareTokens (eraseConditionals cs) = bareTokens (eraseConditionals ds) := by
  rw [← eraseAtMost_of_le (le_max_left (cs.count '?') (ds.count '?')),
    ← eraseAtMost_of_le (le_max_right (cs.count '?') (ds.count '?'))]
  exact bareTokens_eraseAtMost h hcs _

end NavigationBar.Template
