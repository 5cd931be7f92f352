import Mathlib.Logic.Relation
import NavigationBar.Proofs.Template.LastConditional
import NavigationBar.Proofs.Template.Rereading

/-!
# Conditionals unfold one by one

Every text is rewritten by steps that take one question mark and one colon away and put the marks
and words of an `if` expression around the operands. The other tokens that count stay as they are
and where they are, whatever the text: the scans cut it into pieces without losing any, and the
pieces are read back from the text that they are put together into. No more steps are taken than
there are question marks.
-/

namespace NavigationBar.Template

open Token

/-! ## What the scans find -/

theorem splitCondition_cut (depth : Nat) (ps : List Placed) :
    (splitCondition depth ps).1 ++ (splitCondition depth ps).2 = ps := by
  fun_induction splitCondition depth ps <;> simp_all

theorem splitAlternative_cut (depth : Nat) (ps : List Placed) :
    (splitAlternative depth ps).1 ++ (splitAlternative depth ps).2 = ps := by
  fun_induction splitAlternative depth ps <;> simp_all

theorem splitColon_eq_some {depth : Nat} {ps inner rest : List Placed}
    (h : splitColon depth ps = some (inner, rest)) :
    ∃ k : Placed, k.isColon = true ∧ ps = inner ++ k :: rest := by
  have hcons : ∀ {p : Placed} {ps inner : List Placed},
      (∃ k : Placed, k.isColon = true ∧ ps = inner ++ k :: rest) →
        ∃ k : Placed, k.isColon = true ∧ p :: ps = p :: inner ++ k :: rest := by
    rintro p ps inner ⟨k, hk, rfl⟩
    exact ⟨k, hk, rfl⟩
  fun_induction splitColon depth ps generalizing inner with
  | case1 => cases h
  | case2 depth p ps ho ih =>
    obtain ⟨found, hfound, heq⟩ := Option.map_eq_some_iff.mp h
    cases heq
    exact hcons (ih hfound)
  | case3 p ps ho hc => cases h
  | case4 p ps ho hc depth ih =>
    obtain ⟨found, hfound, heq⟩ := Option.map_eq_some_iff.mp h
    cases heq
    exact hcons (ih hfound)
  | case5 => cases h
  | case6 depth p ps ho hc hsemi hcolon =>
    cases h
    exact ⟨p, hcolon.2, rfl⟩
  | case7 depth p ps ho hc hsemi hcolon ih =>
    obtain ⟨found, hfound, heq⟩ := Option.map_eq_some_iff.mp h
    cases heq
    exact hcons (ih hfound)

theorem splitQuestion?_eq_some {ps left right : List Placed}
    (h : splitQuestion? ps = some (left, right)) :
    ∃ q : Placed, q.isQuestion = true ∧ ps = left.reverse ++ q :: right := by
  have hcut := List.takeWhile_append_dropWhile (p := fun p => !p.isQuestion) (l := ps.reverse)
  unfold splitQuestion? at h
  dsimp only at h
  split at h
  · cases h
  · rename_i q before hbefore
    cases h
    have hq := List.head?_dropWhile_not (fun p => !p.isQuestion) ps.reverse
    rw [hbefore] at hcut hq
    refine ⟨q, by simpa using hq, ?_⟩
    have hreverse := congrArg List.reverse hcut
    simpa using hreverse.symm

theorem splitTrivia_cut (ps : List Placed) :
    (splitTrivia ps).1 ++ (splitTrivia ps).2 = ps ∧
      (∀ p ∈ (splitTrivia ps).1, p.isSignificant = false) ∧
      ∀ p ∈ (splitTrivia ps).2.head?, p.isSignificant = true := by
  refine ⟨List.takeWhile_append_dropWhile, ?_, ?_⟩
  · intro p hp
    simpa using List.mem_takeWhile_imp hp
  · intro p hp
    have hnot := List.head?_dropWhile_not (fun p : Placed => !p.isSignificant) ps
    rw [show (ps.dropWhile fun p => !p.isSignificant).head? = some p from hp] at hnot
    simpa using hnot

/-- An operand is all of a list but the trivia around it. -/
theorem operand?_eq_some {ps : List Placed} {o : Operand} (h : operand? ps = some o) :
    ps = o.before ++ (o.inner ++ o.after) ∧ (∀ p ∈ o.before, p.isSignificant = false) ∧
      (∀ p ∈ o.after, p.isSignificant = false) ∧ IsSolid (o.inner.map Placed.token) := by
  obtain ⟨hcut, hbefore, hhead⟩ := splitTrivia_cut ps
  obtain ⟨hcut', hafter, hlast⟩ := splitTrivia_cut (splitTrivia ps).2.reverse
  unfold operand? at h
  generalize splitTrivia ps = first at *
  obtain ⟨before, rest⟩ := first
  dsimp only at *
  generalize splitTrivia rest.reverse = second at *
  obtain ⟨after, inner⟩ := second
  dsimp only at *
  cases inner with
  | nil => cases h
  | cons last inner =>
    cases h
    have hrest : rest = (last :: inner).reverse ++ after.reverse := by
      rw [← List.reverse_append, hcut', List.reverse_reverse]
    have hkind : ∀ {p : Placed}, p.isSignificant = true → p.token.kind ≠ .trivia := fun hp => by
      simpa [Placed.isSignificant] using hp
    refine ⟨by rw [← hrest, hcut], hbefore, fun p hp => hafter p (List.mem_reverse.mp hp), ?_, ?_⟩
    · cases hinner : (last :: inner).reverse with
      | nil => simp at hinner
      | cons p more =>
        rw [hrest, hinner] at hhead
        exact ⟨p.token, _, rfl, hkind (hhead p rfl)⟩
    · refine ⟨inner.reverse.map Placed.token, last.token, ?_, hkind (hlast last rfl)⟩
      rw [List.reverse_cons, List.map_append]
      rfl

/-- The tokens before a question mark, cut around the condition that the scan back from it finds. -/
theorem reverse_eq_of_condition {left : List Placed} {o : Operand}
    (h : operand? (splitCondition 0 left).1.reverse = some o) :
    left.reverse =
      (splitCondition 0 left).2.reverse ++ o.before ++ (o.inner ++ o.after) := by
  rw [List.append_assoc, ← (operand?_eq_some h).1, ← List.reverse_append, splitCondition_cut]

/-- The tokens after a colon, cut around the operand that the scan on from it finds. -/
theorem eq_of_alternative {rest : List Placed} {o : Operand}
    (h : operand? (splitAlternative 0 rest).1 = some o) :
    rest = o.before ++ (o.inner ++ (o.after ++ (splitAlternative 0 rest).2)) := by
  rw [← List.append_assoc o.inner, ← List.append_assoc o.before, ← (operand?_eq_some h).1,
    splitAlternative_cut]

/-- Whether a list of tokens is made up of the parts of a conditional, with its question mark, its
colon and the trivia around them. -/
inductive Parts.AreOf (p : Parts) : List Placed → Prop where
  /-- A question mark and a colon between trivia. -/
  | intro {q k : Placed} {t₁ t₂ t₃ t₄ : List Placed} (hq : q.isQuestion = true)
    (hk : k.isColon = true) (htrivia : ∀ t ∈ t₁ ++ t₂ ++ t₃ ++ t₄, t.isSignificant = false)
    (hcondition : IsSolid (p.condition.map Placed.token))
    (hconsequent : IsSolid (p.consequent.map Placed.token))
    (halternative : IsSolid (p.alternative.map Placed.token)) :
    AreOf p (p.before ++ (p.condition ++ t₁) ++ q ::
      (t₂ ++ (p.consequent ++ t₃) ++ k :: (t₄ ++ (p.alternative ++ p.after))))

/-- The parts that are found make up the list that they are found in. -/
theorem areOf_of_parts? {ps : List Placed} {p : Parts} (h : parts? ps = some p) : p.AreOf ps := by
  simp only [parts?, Option.bind_eq_bind, Option.bind_eq_some_iff, Option.pure_def] at h
  obtain ⟨⟨left, right⟩, hquestion, c, hc, ⟨inner, rest⟩, hcolon, a, ha, b, hb, hparts⟩ := h
  obtain ⟨q, hq, rfl⟩ := splitQuestion?_eq_some hquestion
  obtain ⟨k, hk, rfl⟩ := splitColon_eq_some hcolon
  have hleft := reverse_eq_of_condition hc
  have hrest := eq_of_alternative hb
  obtain ⟨-, hc₁, hc₂, hc₃⟩ := operand?_eq_some hc
  obtain ⟨ha, ha₁, ha₂, ha₃⟩ := operand?_eq_some ha
  obtain ⟨-, hb₁, hb₂, hb₃⟩ := operand?_eq_some hb
  cases hparts
  have hall : left.reverse ++ q :: (inner ++ k :: rest) =
      (splitCondition 0 left).2.reverse ++ c.before ++ (c.inner ++ c.after) ++ q ::
        (a.before ++ (a.inner ++ a.after) ++ k ::
          (b.before ++ (b.inner ++ (b.after ++ (splitAlternative 0 rest).2)))) := by
    rw [← hleft, ← hrest, ← ha]
  rw [hall]
  refine .intro hq hk ?_ hc₃ ha₃ hb₃
  simp only [List.forall_mem_append]
  exact ⟨⟨⟨hc₂, ha₁⟩, ha₂⟩, hb₁⟩

/-! ## Rounds -/

theorem map_token_place (cs : List Char) :
    (place none (tokens cs)).map Placed.token = tokens cs := by
  rw [place_eq, map_token_placeWithin]

theorem text_of_mark {cs : List Char} {t : Token} {c : Char} (ht : t ∈ tokens cs)
    (hk : t.kind = .mark c) : t.text = [c] := by
  fun_induction tokens cs with
  | case1 => exact absurd ht List.not_mem_nil
  | case2 d ds ih =>
    rcases List.mem_cons.mp ht with rfl | ht
    · by_cases hb : BeginsTrivia d ds
      · rw [read_trivia hb] at hk
        cases hk
      by_cases hm : d = '"' ∨ d = '`'
      · rw [read_quoted hm] at hk
        cases hk
      by_cases hw : isWordChar d = true
      · rw [read_word hw] at hk
        cases hk
      · rw [read_mark hb hm (by simpa using hw)] at hk ⊢
        rw [TokenKind.mark.inj hk]
    · exact ih ht

theorem text_of_mem_place {cs : List Char} {p : Placed} {c : Char}
    (hp : p ∈ place none (tokens cs)) (hk : p.token.kind = .mark c) : p.token.text = [c] := by
  have hmem : p.token ∈ tokens cs := by
    rw [← map_token_place cs]
    exact List.mem_map_of_mem hp
  exact text_of_mark hmem hk

theorem covered_append (ps qs : List Placed) : covered (ps ++ qs) = covered ps ++ covered qs := by
  rw [covered, List.map_append, source_append]
  rfl

theorem covered_cons (p : Placed) (ps : List Placed) :
    covered (p :: ps) = p.token.text ++ covered ps := rfl

theorem covered_place (cs : List Char) : covered (place none (tokens cs)) = cs := by
  rw [covered, map_token_place, source_tokens]

/-- A step uses up a question mark. -/
theorem Parts.AreOf.count_lt {cs : List Char} {p : Parts} (h : p.AreOf (place none (tokens cs))) :
    p.toText.count '?' < cs.count '?' := by
  have hcovered := congrArg (List.count '?') (covered_place cs)
  have hmark : ∀ q ∈ place none (tokens cs), q.isQuestion = true → q.token.text = ['?'] :=
    fun q hmem hq => text_of_mem_place hmem (Placed.kind_of_isQuestion hq)
  generalize place none (tokens cs) = ps at h hcovered hmark
  obtain ⟨hq, hk, htrivia, hc, ha, hb⟩ := h
  have hquestion := hmark _ (List.mem_append_right _ List.mem_cons_self) hq
  rw [← hcovered]
  simp only [covered_append, covered_cons, hquestion, Parts.toText, List.count_append]
  have hone : ['?'].count '?' = 1 := by decide
  have hif : "(if ".toList.count '?' = 0 := by decide
  have hopen : " \x7b ".toList.count '?' = 0 := by decide
  have helse : " \x7d else \x7b ".toList.count '?' = 0 := by decide
  have hclose : " \x7d)".toList.count '?' = 0 := by decide
  omega

theorem count_lt_of_eraseLast?_eq_some {cs next : List Char} (h : eraseLast? cs = some next) :
    next.count '?' < cs.count '?' := by
  obtain ⟨p, hp, rfl⟩ := Option.map_eq_some_iff.mp h
  exact (areOf_of_parts? hp).count_lt

theorem eraseAtMost_of_eq_none {cs : List Char} (h : eraseLast? cs = none) (n : Nat) :
    eraseAtMost cs n = cs := by
  cases n with
  | zero => rfl
  | succ n => rw [eraseAtMost, h]

theorem eraseAtMost_of_eq_some {cs next : List Char} (h : eraseLast? cs = some next) (n : Nat) :
    eraseAtMost cs (n + 1) = eraseAtMost next n := by
  rw [eraseAtMost, h]

/-- As many rounds as there are question marks leave no conditional. -/
theorem eraseLast?_eraseAtMost {cs : List Char} {n : Nat} (h : cs.count '?' ≤ n) :
    eraseLast? (eraseAtMost cs n) = none := by
  induction n generalizing cs with
  | zero =>
    cases hlast : eraseLast? cs with
    | none => rw [eraseAtMost_of_eq_none hlast, hlast]
    | some next =>
      have hlt := count_lt_of_eraseLast?_eq_some hlast
      omega
  | succ n ih =>
    cases hlast : eraseLast? cs with
    | none => rw [eraseAtMost_of_eq_none hlast, hlast]
    | some next =>
      have hlt := count_lt_of_eraseLast?_eq_some hlast
      rw [eraseAtMost_of_eq_some hlast]
      exact ih (by omega)

theorem eraseAtMost_add (cs : List Char) (m n : Nat) :
    eraseAtMost cs (m + n) = eraseAtMost (eraseAtMost cs m) n := by
  induction m generalizing cs with
  | zero => rw [Nat.zero_add, eraseAtMost]
  | succ m ih =>
    rw [Nat.succ_add]
    cases hlast : eraseLast? cs with
    | none =>
      rw [eraseAtMost_of_eq_none hlast, eraseAtMost_of_eq_none hlast, eraseAtMost_of_eq_none hlast]
    | some next => rw [eraseAtMost_of_eq_some hlast, eraseAtMost_of_eq_some hlast, ih]

/-- More rounds than that change nothing. -/
theorem eraseAtMost_of_le {cs : List Char} {n : Nat} (h : cs.count '?' ≤ n) :
    eraseAtMost cs n = eraseConditionals cs := by
  have hdone := eraseLast?_eraseAtMost (le_refl (cs.count '?'))
  rw [← Nat.add_sub_cancel' h, eraseAtMost_add, eraseAtMost_of_eq_none hdone, eraseConditionals]

/-! ## Steps -/

/-- The tokens of a text that count. -/
def significant (cs : List Char) : List Token :=
  (tokens cs).filter (·.kind ≠ .trivia)

/-- Whether the tokens of a text that count are those of another one after one step: a question mark
that is one of a conditional and a later colon are taken away, the marks and words of an `if`
expression are put around three operands that are not empty, and all else stays. -/
inductive Unfolds (cs ds : List Char) : Prop where
  /-- The tokens before the step and after it. -/
  | intro {B C A D E : List Placed} {q k : Placed}
    (hfrom : (place none (tokens cs)).filter Placed.isSignificant =
      B ++ C ++ q :: (A ++ k :: (D ++ E)))
    (hq : q.isQuestion = true) (hk : k.isColon = true) (hC : C ≠ []) (hA : A ≠ []) (hD : D ≠ [])
    (hto : significant ds =
      B.map Placed.token ++ [ofMark '(', ofWord "if".toList] ++ C.map Placed.token ++
        [ofMark '\x7b'] ++ A.map Placed.token ++
        [ofMark '\x7d', ofWord "else".toList, ofMark '\x7b'] ++ D.map Placed.token ++
        [ofMark '\x7d', ofMark ')'] ++ E.map Placed.token)

theorem filter_map_token (ps : List Placed) :
    (ps.map Placed.token).filter (·.kind ≠ .trivia) =
      (ps.filter Placed.isSignificant).map Placed.token := by
  rw [List.filter_map]
  refine congrArg (List.map Placed.token) (List.filter_congr fun p _ => ?_)
  simp only [Function.comp_apply, Placed.isSignificant, decide_not, bne, beq_eq_decide]

variable {cs : List Char} {p : Parts}

/-- Tokens of a text are whole if the last of them counts. -/
theorem QuotesClosed.isWhole_of_isSolid (h : QuotesClosed cs) {ts us vs : List Token}
    (hts : tokens cs = ts ++ (us ++ vs)) (hus : IsSolid us) : ∀ t ∈ ts ++ us, t.IsWhole := by
  obtain ⟨us, t, rfl, ht⟩ := hus.last
  have hmem : t ∈ tokens cs := by simp [hts]
  have hcut : tokens cs = (ts ++ us) ++ t :: vs := by simp [hts]
  rw [← List.append_assoc, List.forall_mem_append]
  exact ⟨isWhole_of_append hcut nofun, List.forall_mem_singleton.mpr (h.isWhole hmem ht)⟩

theorem Parts.toText_eq (p : Parts) :
    p.toText = source (p.before.map Placed.token ++ scriptConditional (p.condition.map Placed.token)
      (p.consequent.map Placed.token) (p.alternative.map Placed.token)) ++
        source (p.after.map Placed.token) := by
  simp [toText, covered, scriptConditional, space, ofMark, ofWord]

/-- The tokens of a text after a step. -/
theorem QuotesClosed.tokens_toText (h : QuotesClosed cs)
    (hp : p.AreOf (place none (tokens cs))) :
    tokens p.toText = p.before.map Placed.token ++ scriptConditional (p.condition.map Placed.token)
      (p.consequent.map Placed.token) (p.alternative.map Placed.token) ++
        p.after.map Placed.token := by
  have hall := map_token_place cs
  generalize place none (tokens cs) = ps at hp hall
  obtain ⟨hq, hk, htrivia, hsc, hsa, hsb⟩ := hp
  rename_i q k t₁ t₂ t₃ t₄
  -- All is whole up to the end of the last operand, which something else now follows.
  have hcut : tokens cs = (p.before ++ (p.condition ++ t₁) ++ q :: (t₂ ++ (p.consequent ++ t₃) ++
      k :: t₄)).map Placed.token ++
        (p.alternative.map Placed.token ++ p.after.map Placed.token) := by
    rw [← hall]
    simp
  have hwhole := h.isWhole_of_isSolid hcut hsb
  rw [← List.append_assoc] at hcut
  have hchain := isChain_tokens cs
  rw [hcut, List.isChain_append] at hchain
  have hlexed := Lexed.mk hwhole hchain.1
  simp only [List.map_append, List.map_cons] at hlexed
  obtain ⟨hfront, halternative, -⟩ := lexed_append.1 hlexed
  obtain ⟨hleft, hright, -⟩ := lexed_append.1 hfront
  obtain ⟨hbefore, hcondition, -⟩ := lexed_append.1 hleft
  obtain ⟨hcondition, -, -⟩ := lexed_append.1 hcondition
  obtain ⟨hmiddle, -, -⟩ := lexed_append.1 hright.tail
  obtain ⟨hconsequent, -, -⟩ := lexed_append.1 (lexed_append.1 hmiddle).2.1
  have hscript := lexed_scriptConditional hcondition hconsequent halternative hsc hsa hsb
  have hnew : Lexed (p.before.map Placed.token ++ scriptConditional
      (p.condition.map Placed.token) (p.consequent.map Placed.token)
        (p.alternative.map Placed.token)) := by
    refine lexed_append.2 ⟨hbefore, hscript, ?_⟩
    rintro t - u ⟨⟩
    exact precedes_joint (by decide) t
  have hafter := tokens_source_of_append hcut
  rw [p.toText_eq, tokens_source_append hnew.whole, hafter]
  rw [hafter]
  refine List.isChain_append.2 ⟨hnew.chain, hchain.2.1, ?_⟩
  intro t ht u _
  obtain ⟨xs, hxs⟩ := exists_scriptConditional (p.condition.map Placed.token)
    (p.consequent.map Placed.token) (p.alternative.map Placed.token)
  rw [hxs, ← List.append_assoc, List.getLast?_concat, Option.mem_some_iff] at ht
  exact ht ▸ mark_precedes (by decide) u

/-- No quoted text is opened by a step. -/
theorem QuotesClosed.toText (h : QuotesClosed cs) (hp : p.AreOf (place none (tokens cs))) :
    QuotesClosed p.toText := by
  have hall : ∀ t ∈ place none (tokens cs), t.token.isClosed = true := by
    intro t ht
    refine h t.token ?_
    rw [← map_token_place cs]
    exact List.mem_map_of_mem ht
  have htokens := h.tokens_toText hp
  generalize place none (tokens cs) = ps at hp hall
  obtain ⟨-, -, -, -, -, -⟩ := hp
  simp only [List.forall_mem_append, List.forall_mem_cons] at hall
  obtain ⟨⟨hbefore, hcondition, -⟩, -, ⟨-, hconsequent, -⟩, -, -, halternative, hafter⟩ := hall
  rw [QuotesClosed, htokens]
  simp only [scriptConditional, List.forall_mem_append, List.forall_mem_cons, List.forall_mem_map]
  exact ⟨⟨hbefore, ⟨⟨⟨rfl, rfl, rfl, hcondition⟩, rfl, rfl, rfl, hconsequent⟩,
    rfl, rfl, rfl, rfl, rfl, rfl, rfl, halternative⟩, rfl, rfl, rfl, List.forall_mem_nil _⟩, hafter⟩

theorem Placed.isSignificant_of_isMark {p : Placed} {c : Char} (h : p.isMark c = true) :
    p.isSignificant = true := by
  have hkind : p.token.kind = .mark c := by simpa [isMark] using h
  simp [isSignificant, hkind]

theorem filter_isSignificant_ne_nil {ps : List Placed} (h : IsSolid (ps.map Placed.token)) :
    ps.filter Placed.isSignificant ≠ [] := by
  obtain ⟨t, us, hus, ht⟩ := h.head
  obtain ⟨p, rest, rfl, rfl, -⟩ := List.map_eq_cons_iff.mp hus
  intro hnil
  have hp := List.filter_eq_nil_iff.mp hnil p List.mem_cons_self
  exact hp (by simpa [Placed.isSignificant] using ht)

theorem QuotesClosed.unfolds (h : QuotesClosed cs) (hp : p.AreOf (place none (tokens cs))) :
    Unfolds cs p.toText := by
  have htokens := h.tokens_toText hp
  generalize hps : place none (tokens cs) = ps at hp
  obtain ⟨hq, hk, htrivia, hsc, hsa, hsb⟩ := hp
  rename_i q k t₁ t₂ t₃ t₄
  have hnil : ∀ {ts : List Placed}, (∀ t ∈ ts, t.isSignificant = false) →
      ts.filter Placed.isSignificant = [] := fun hts =>
    List.filter_eq_nil_iff.mpr fun t ht => by simp [hts t ht]
  simp only [List.forall_mem_append] at htrivia
  obtain ⟨⟨⟨h₁, h₂⟩, h₃⟩, h₄⟩ := htrivia
  have hq' : q.isSignificant = true := by
    simp only [Placed.isQuestion, Bool.and_eq_true] at hq
    exact Placed.isSignificant_of_isMark hq.1.1
  have hk' : k.isSignificant = true := by
    simp only [Placed.isColon, Bool.and_eq_true] at hk
    exact Placed.isSignificant_of_isMark hk.1.1
  refine .intro (B := p.before.filter Placed.isSignificant)
    (C := p.condition.filter Placed.isSignificant) (A := p.consequent.filter Placed.isSignificant)
    (D := p.alternative.filter Placed.isSignificant) (E := p.after.filter Placed.isSignificant)
    ?_ hq hk (filter_isSignificant_ne_nil hsc) (filter_isSignificant_ne_nil hsa)
    (filter_isSignificant_ne_nil hsb) ?_
  · rw [hps]
    simp only [List.filter_append, List.filter_cons, hq', hk', if_true, hnil h₁, hnil h₂, hnil h₃,
      hnil h₄, List.append_nil, List.nil_append]
  · rw [significant, htokens]
    simp only [scriptConditional, List.filter_append, List.filter_cons, filter_map_token]
    simp [space, ofMark, ofWord]

theorem eraseAtMost_unfolds (h : QuotesClosed cs) (n : Nat) :
    Relation.ReflTransGen Unfolds cs (eraseAtMost cs n) := by
  induction n generalizing cs with
  | zero => exact .refl
  | succ n ih =>
    rw [eraseAtMost]
    cases hlast : eraseLast? cs with
    | none => exact .refl
    | some next =>
      obtain ⟨p, hp, rfl⟩ := Option.map_eq_some_iff.mp hlast
      have hparts := areOf_of_parts? hp
      exact (ih (h.toText hparts)).head (h.unfolds hparts)

/-- The marks that a step takes away or adds. -/
def conditionalMarks : List Char := ['?', ':', '(', ')', '\x7b', '\x7d']

/-- Any other mark is there as often as before. -/
theorem Unfolds.count_eq {ds : List Char} (h : Unfolds cs ds) {c : Char}
    (hc : c ∉ conditionalMarks) :
    (significant ds).count (ofMark c) = (significant cs).count (ofMark c) := by
  obtain ⟨hfrom, hq, hk, -, -, -, hto⟩ := h
  rename_i B C A D E q k
  simp only [conditionalMarks, List.mem_cons, List.not_mem_nil, or_false, not_or] at hc
  obtain ⟨h₁, h₂, h₃, h₄, h₅, h₆⟩ := hc
  have hne : ∀ {p : Placed} {d : Char}, p.isMark d = true → c ≠ d → p.token ≠ ofMark c := by
    intro p d hp hcd heq
    rw [Placed.isMark, heq, beq_iff_eq] at hp
    exact hcd (TokenKind.mark.inj hp)
  simp only [Placed.isQuestion, Placed.isColon, Bool.and_eq_true] at hq hk
  have hqne := hne hq.1.1 h₁
  have hkne := hne hk.1.1 h₂
  have hcs : significant cs = (B ++ C ++ q :: (A ++ k :: (D ++ E))).map Placed.token := by
    rw [← hfrom, ← filter_map_token, map_token_place, significant]
  have hmark : ∀ {d : Char}, c ≠ d → ofMark d ≠ ofMark c := fun hcd heq =>
    hcd (TokenKind.mark.inj (Token.mk.inj heq).1).symm
  have hword : ∀ w, ofWord w ≠ ofMark c := fun w heq => by cases heq
  rw [hto, hcs]
  simp only [List.map_append, List.map_cons, List.count_append, List.count_cons, List.count_nil,
    beq_iff_eq, hqne, hkne, hmark h₃, hmark h₄, hmark h₅, hmark h₆, hword, if_false]
  omega

theorem QuotesClosed.count_eraseConditionals (h : QuotesClosed cs) {c : Char}
    (hc : c ∉ conditionalMarks) :
    (significant (eraseConditionals cs)).count (ofMark c) =
      (significant cs).count (ofMark c) := by
  have hsteps := eraseAtMost_unfolds h (cs.count '?')
  rw [← eraseConditionals] at hsteps
  generalize eraseConditionals cs = ds at hsteps ⊢
  induction hsteps with
  | refl => rfl
  | tail _ hstep ih => rw [hstep.count_eq hc, ih]

/-- A text whose quoted texts are closed becomes one without conditionals by steps that take one
question mark and one colon each and add what an `if` expression has for them. No other token that
counts is lost, doubled or moved, and no conditional is left. -/
theorem eraseConditionals_unfolds (h : QuotesClosed cs) :
    Relation.ReflTransGen Unfolds cs (eraseConditionals cs) ∧
      eraseLast? (eraseConditionals cs) = none :=
  ⟨eraseAtMost_unfolds h _, eraseLast?_eraseAtMost (le_refl _)⟩

/-- A conditional inside of another, and question marks and colons of other kinds. -/
theorem eraseConditionals_unfolds_nested :
    QuotesClosed "x ?? y; a?.b ? (c ? `?` : 1) : \"::\"".toList ∧
    Relation.ReflTransGen Unfolds "x ?? y; a?.b ? (c ? `?` : 1) : \"::\"".toList
      ("x ?? y; (if a?.b \x7b ((if c \x7b `?` \x7d else \x7b 1 \x7d)) \x7d else " ++
        "\x7b \"::\" \x7d)").toList := by
  have hclosed : QuotesClosed "x ?? y; a?.b ? (c ? `?` : 1) : \"::\"".toList := by decide +kernel
  obtain ⟨hsteps, -⟩ := eraseConditionals_unfolds hclosed
  have hscript : eraseConditionals "x ?? y; a?.b ? (c ? `?` : 1) : \"::\"".toList =
      ("x ?? y; (if a?.b \x7b ((if c \x7b `?` \x7d else \x7b 1 \x7d)) \x7d else " ++
        "\x7b \"::\" \x7d)").toList := by decide +kernel
  rw [hscript] at hsteps
  exact ⟨hclosed, hsteps⟩

end NavigationBar.Template
