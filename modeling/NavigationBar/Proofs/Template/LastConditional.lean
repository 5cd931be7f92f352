import Mathlib.Data.List.TakeWhile
import NavigationBar.Proofs.Template.Scanning

/-!
# Rewriting the last conditional

`Rewrites before after` says that the second list of tokens is the first one with its last
conditional in the form that scripts have for it, and that the scans find the ends of that
conditional: its parts are balanced, and what stands around it ends the scans. One round of the pass
does just that (`Rewrites.eraseLast?_source`).
-/

namespace NavigationBar.Template

open Token

/-! ## What ends a scan -/

/-- Whether a list of tokens is blank. -/
def IsBlank (ts : List Token) : Prop :=
  ∀ t ∈ ts, t.kind = .trivia

/-- Whether conditions begin after a list of tokens: it ends, blanks aside, in an opening bracket or
in something else that no condition reaches over. -/
def StopsBefore (ts : List Token) : Prop :=
  ∀ left right, ∃ ps p qs, placeWithin left right ts = ps ++ p :: qs ∧
    (∀ q ∈ qs, q.isSignificant = false) ∧ p.isClosing = false ∧
    (p.isOpening || p.endsCondition) = true

/-- Whether conditionals end before a list of tokens: it begins, blanks aside, with a closing
bracket or something else that no conditional reaches over. -/
def StopsAfter (ts : List Token) : Prop :=
  ∀ left right, ∃ ps p qs, placeWithin left right ts = ps ++ p :: qs ∧
    (∀ q ∈ ps, q.isSignificant = false) ∧ p.isOpening = false ∧
    (p.isClosing || p.endsAlternative) = true

/-- No token of a list is the question mark of a conditional. -/
def HasNoQuestion (ts : List Token) : Prop :=
  Everywhere (fun p => p.isQuestion = false) ts

variable {ts us : List Token}

theorem IsBlank.not_significant (h : IsBlank ts) :
    Everywhere (fun p => p.isSignificant = false) ts :=
  everywhere_of_forall fun t ht _ _ => by simp [Placed.isSignificant, h t ht]

theorem StopsBefore.append_left (h : StopsBefore us) (ts : List Token) :
    StopsBefore (ts ++ us) := by
  intro left right
  obtain ⟨ps, p, qs, hus, hq, hc, he⟩ := h (lastChar left ts) right
  rw [placeWithin_append, hus]
  exact ⟨placeWithin left (headChar right us) ts ++ ps, p, qs, by simp, hq, hc, he⟩

theorem StopsBefore.append_blank (h : StopsBefore ts) (hb : IsBlank us) :
    StopsBefore (ts ++ us) := by
  intro left right
  obtain ⟨ps, p, qs, hts, hq, hc, he⟩ := h left (headChar right us)
  rw [placeWithin_append, hts]
  refine ⟨ps, p, qs ++ placeWithin (lastChar left ts) right us, by simp, ?_, hc, he⟩
  intro q hmem
  exact (List.mem_append.1 hmem).elim (hq q) (hb.not_significant _ _ q)

theorem StopsAfter.append_right (h : StopsAfter ts) (us : List Token) : StopsAfter (ts ++ us) := by
  intro left right
  obtain ⟨ps, p, qs, hts, hq, ho, he⟩ := h left (headChar right us)
  rw [placeWithin_append, hts]
  exact ⟨ps, p, qs ++ placeWithin (lastChar left ts) right us, by simp, hq, ho, he⟩

theorem StopsAfter.append_blank (h : StopsAfter us) (hb : IsBlank ts) : StopsAfter (ts ++ us) := by
  intro left right
  obtain ⟨ps, p, qs, hus, hq, ho, he⟩ := h (lastChar left ts) right
  rw [placeWithin_append, hus]
  refine ⟨placeWithin left (headChar right us) ts ++ ps, p, qs, by simp, ?_, ho, he⟩
  intro q hmem
  exact (List.mem_append.1 hmem).elim (hb.not_significant _ _ q) (hq q)

/-! ## Conditionals -/

/-- The tokens of a conditional. -/
def conditional (c a b : List Token) : List Token :=
  c ++ space :: ofMark '?' :: space :: a ++ space :: ofMark ':' :: space :: b

/-- The tokens of a conditional as scripts have it. -/
def scriptConditional (c a b : List Token) : List Token :=
  ofMark '(' :: ofWord "if".toList :: space :: c ++
    space :: ofMark '\x7b' :: space :: a ++
    space :: ofMark '\x7d' :: space :: ofWord "else".toList ::
    space :: ofMark '\x7b' :: space :: b ++ [space, ofMark '\x7d', ofMark ')']

theorem exists_scriptConditional (c a b : List Token) :
    ∃ ts, scriptConditional c a b = ts ++ [ofMark ')'] :=
  ⟨_, (List.append_assoc _ [space, ofMark '\x7d'] [ofMark ')']).symm⟩

/-- Whether a list of tokens is balanced, and no condition begins inside of it but within
brackets. -/
def IsTight (ts : List Token) : Prop :=
  ∀ left right, Balanced true (placeWithin left right ts)

/-- Whether the scans from the question mark of a conditional find its parts. -/
structure IsConditional (c a b : List Token) : Prop where
  /-- The condition is not blank. -/
  condition_solid : IsSolid c
  /-- The first operand is not blank. -/
  consequent_solid : IsSolid a
  /-- The second operand is not blank. -/
  alternative_solid : IsSolid b
  /-- The condition is passed over. -/
  condition_tight : IsTight c
  /-- The first operand is passed over. -/
  consequent_tight : IsTight a
  /-- The second operand is passed over. -/
  alternative_tight : IsTight b
  /-- The question mark is the last one before the colon. -/
  consequent_question : HasNoQuestion a
  /-- The question mark is the last one before the end. -/
  alternative_question : HasNoQuestion b

/-- The second list of tokens is the first one with its last conditional rewritten. If this goes on
`inside`, something stops the scans before and after the conditional. -/
inductive Rewrites (inside : Bool) : List Token → List Token → Prop where
  /-- A conditional between two lists. -/
  | intro {before c a b after : List Token} (h : IsConditional c a b)
    (hbefore : StopsBefore before ∨ inside = false ∧ IsBlank before)
    (hafter : StopsAfter after ∨ inside = false ∧ IsBlank after)
    (hquestion : HasNoQuestion after) :
    Rewrites inside (before ++ (conditional c a b ++ after))
      (before ++ (scriptConditional c a b ++ after))

/-! ## The scans -/

theorem splitQuestion?_append {p : Placed} (hp : p.isQuestion = true) {ps qs : List Placed}
    (hq : ∀ q ∈ qs, q.isQuestion = false) :
    splitQuestion? (ps ++ p :: qs) = some (ps.reverse, qs) := by
  have hpos : ∀ q ∈ qs.reverse, (!q.isQuestion) = true := fun q hmem => by
    simp [hq q (List.mem_reverse.1 hmem)]
  unfold splitQuestion?
  rw [List.reverse_append, List.reverse_cons, List.append_assoc, List.singleton_append,
    List.takeWhile_append_of_pos hpos, List.dropWhile_append_of_pos hpos]
  simp [hp]

theorem splitQuestion?_eq_none {ps : List Placed} (h : ∀ p ∈ ps, p.isQuestion = false) :
    splitQuestion? ps = none := by
  have hnil : ps.reverse.dropWhile (fun p => !p.isQuestion) = [] := by
    rw [List.dropWhile_eq_nil_iff]
    intro p hp
    simp [h p (List.mem_reverse.1 hp)]
  unfold splitQuestion?
  rw [hnil]

theorem splitTrivia_append {p : Placed} (hp : p.isSignificant = true) {ps qs : List Placed}
    (hps : ∀ q ∈ ps, q.isSignificant = false) : splitTrivia (ps ++ p :: qs) = (ps, p :: qs) := by
  have hpos : ∀ q ∈ ps, (!q.isSignificant) = true := fun q hmem => by simp [hps q hmem]
  unfold splitTrivia
  rw [List.takeWhile_append_of_pos hpos, List.dropWhile_append_of_pos hpos]
  simp [hp]

/-- The first token that counts and the last one bound an operand. -/
theorem operand?_eq {ps inner qs : List Placed} (hps : ∀ p ∈ ps, p.isSignificant = false)
    (hqs : ∀ p ∈ qs, p.isSignificant = false)
    (hhead : ∃ p rest, inner = p :: rest ∧ p.isSignificant = true)
    (hlast : ∃ rest p, inner = rest ++ [p] ∧ p.isSignificant = true) :
    operand? (ps ++ (inner ++ qs)) = some ⟨ps, inner, qs⟩ := by
  obtain ⟨p, rest, hinner, hp⟩ := hhead
  obtain ⟨rest', p', hinner', hp'⟩ := hlast
  have hfirst : splitTrivia (ps ++ (inner ++ qs)) = (ps, inner ++ qs) := by
    rw [hinner, List.cons_append]
    exact splitTrivia_append hp hps
  have hsecond : splitTrivia (inner ++ qs).reverse = (qs.reverse, inner.reverse) := by
    rw [hinner', List.reverse_append, List.reverse_append, List.reverse_singleton,
      List.singleton_append]
    exact splitTrivia_append hp' fun q hq => hqs q (List.mem_reverse.1 hq)
  have hne : inner.reverse.isEmpty = false := by simp [hinner]
  simp only [operand?, hfirst, hsecond, hne, Bool.false_eq_true, if_false, List.reverse_reverse]

theorem IsSolid.operand? (h : IsSolid ts) (left right : Option Char) {ps qs : List Placed}
    (hps : ∀ p ∈ ps, p.isSignificant = false) (hqs : ∀ p ∈ qs, p.isSignificant = false) :
    operand? (ps ++ (placeWithin left right ts ++ qs)) =
      some ⟨ps, placeWithin left right ts, qs⟩ := by
  obtain ⟨t, us, htu, ht⟩ := h.head
  obtain ⟨us', t', htu', ht'⟩ := h.last
  refine operand?_eq hps hqs ?_ ?_
  · rw [htu, placeWithin]
    exact ⟨_, _, rfl, by simpa [Placed.isSignificant] using ht⟩
  · rw [htu', placeWithin_append]
    exact ⟨_, _, rfl, by simpa [Placed.isSignificant] using ht'⟩

/-- The scan for the begin of a condition goes over the blanks at the end of what is before it. -/
theorem exists_splitCondition {inside : Bool} {before : List Token}
    (h : StopsBefore before ∨ inside = false ∧ IsBlank before) (left right : Option Char) :
    ∃ ps qs, placeWithin left right before = ps ++ qs ∧ (∀ q ∈ qs, q.isSignificant = false) ∧
      splitCondition 0 (placeWithin left right before).reverse = (qs.reverse, ps.reverse) := by
  rcases h with h | ⟨-, h⟩
  · obtain ⟨ps, p, qs, hplace, hqs, hc, he⟩ := h left right
    refine ⟨ps ++ [p], qs, by rw [hplace]; simp, hqs, ?_⟩
    have hblank : Balanced true qs := balanced_of_not_significant hqs
    rw [hplace, List.reverse_append, List.reverse_cons, List.append_assoc, List.singleton_append,
      hblank.splitCondition_append 0 nofun, splitCondition_of_end hc he]
    simp
  · refine ⟨[], _, rfl, h.not_significant left right, ?_⟩
    have hblank : Balanced true _ := balanced_of_not_significant (h.not_significant left right)
    have hscan := hblank.splitCondition_append 0 nofun []
    simpa [splitCondition] using hscan

/-- The scan for the end of a conditional goes over the blanks at the begin of what is after it. -/
theorem exists_splitAlternative {inside : Bool} {after : List Token}
    (h : StopsAfter after ∨ inside = false ∧ IsBlank after) (left right : Option Char) :
    ∃ ps qs, placeWithin left right after = ps ++ qs ∧ (∀ p ∈ ps, p.isSignificant = false) ∧
      splitAlternative 0 (placeWithin left right after) = (ps, qs) := by
  rcases h with h | ⟨-, h⟩
  · obtain ⟨ps, p, qs, hplace, hps, ho, he⟩ := h left right
    refine ⟨ps, p :: qs, hplace, hps, ?_⟩
    have hblank : Balanced true ps := balanced_of_not_significant hps
    rw [hplace, hblank.splitAlternative_append 0 nofun, splitAlternative_of_end ho he]
    simp
  · refine ⟨_, [], (List.append_nil _).symm, h.not_significant left right, ?_⟩
    have hblank : Balanced true _ := balanced_of_not_significant (h.not_significant left right)
    have hscan := hblank.splitAlternative_append 0 nofun []
    simpa [splitAlternative] using hscan

/-- A conditional between its neighbours. -/
theorem placeWithin_conditional (left right : Option Char) (before c a b after : List Token) :
    placeWithin left right (before ++ (conditional c a b ++ after)) =
      (placeWithin left (headChar right (conditional c a b ++ after)) before ++
          (placeWithin (lastChar left before) (some ' ') c ++
            [⟨lastChar (lastChar left before) c, space, some '?'⟩])) ++
        ⟨some ' ', ofMark '?', some ' '⟩ ::
          (([⟨some '?', space, headChar (some ' ') a⟩] ++ (placeWithin (some ' ') (some ' ') a ++
              [⟨lastChar (some ' ') a, space, some ':'⟩])) ++
            ⟨some ' ', ofMark ':', some ' '⟩ ::
              ([⟨some ':', space, headChar (headChar right after) b⟩] ++
                (placeWithin (some ' ') (headChar right after) b ++
                  placeWithin (lastChar (some ' ') b) right after))) := by
  have hassoc : conditional c a b ++ after =
      c ++ space :: ofMark '?' :: space :: (a ++ space :: ofMark ':' :: space :: (b ++ after)) := by
    simp [conditional]
  rw [hassoc]
  simp only [placeWithin_append, placeWithin, headChar_append, headChar_cons, List.append_assoc,
    List.cons_append, List.nil_append]
  rfl

/-- The parts of a conditional that the scans find. -/
theorem parts?_eq {q k : Placed} {B C P Q R qs rs ss ps t₁ t₂ t₃ t₄ : List Placed}
    (hq : q.isQuestion = true) (hk : k.isColon = true)
    (hcond : splitCondition 0 B.reverse = (qs.reverse, ps.reverse))
    (halt : splitAlternative 0 R = (rs, ss))
    (hC : Balanced true (C ++ t₁)) (hP : Balanced true (t₂ ++ (P ++ t₃)))
    (hQ : Balanced true (t₄ ++ Q))
    (hquestion : ∀ p ∈ t₂ ++ (P ++ t₃) ++ k :: (t₄ ++ (Q ++ R)), p.isQuestion = false)
    (hopC : operand? (qs ++ (C ++ t₁)) = some ⟨qs, C, t₁⟩)
    (hopP : operand? (t₂ ++ (P ++ t₃)) = some ⟨t₂, P, t₃⟩)
    (hopQ : operand? (t₄ ++ (Q ++ rs)) = some ⟨t₄, Q, rs⟩) :
    parts? ((B ++ (C ++ t₁)) ++ q :: (t₂ ++ (P ++ t₃) ++ k :: (t₄ ++ (Q ++ R)))) =
      some ⟨ps ++ qs, C, P, Q, rs ++ ss⟩ := by
  have hleft : splitCondition 0 (B ++ (C ++ t₁)).reverse =
      ((qs ++ (C ++ t₁)).reverse, ps.reverse) := by
    rw [List.reverse_append, hC.splitCondition_append 0 nofun, hcond]
    simp only [List.reverse_append, List.append_assoc]
  have hcolon : splitColon 0 (t₂ ++ (P ++ t₃) ++ k :: (t₄ ++ (Q ++ R))) =
      some (t₂ ++ (P ++ t₃), t₄ ++ (Q ++ R)) := by
    rw [hP.splitColon_append 0 nofun, splitColon_colon hk, Option.map_some]
    simp only [List.append_nil]
  have hright : splitAlternative 0 (t₄ ++ (Q ++ R)) = (t₄ ++ (Q ++ rs), ss) := by
    rw [← List.append_assoc, hQ.splitAlternative_append 0 nofun, halt, List.append_assoc]
  unfold parts?
  rw [splitQuestion?_append hq hquestion]
  simp only [Option.bind_eq_bind, Option.bind_some, hleft, List.reverse_reverse, hopC, hcolon,
    hopP, hright, hopQ, Option.pure_def]

/-- One round of the pass rewrites the last conditional. -/
theorem Rewrites.eraseLast?_source {inside : Bool} (h : Rewrites inside ts us) (hl : Lexed ts) :
    eraseLast? (source ts) = some (source us) := by
  obtain ⟨h, hbefore, hafter, hquestion⟩ := h
  rename_i before c a b after
  obtain ⟨ps, qs, hps, hqs, hcond⟩ := exists_splitCondition hbefore none
    (headChar none (conditional c a b ++ after))
  obtain ⟨rs, ss, hrs, hrst, halt⟩ := exists_splitAlternative hafter (lastChar (some ' ') b) none
  have hspace : ∀ l r, ∀ p ∈ [(⟨l, space, r⟩ : Placed)], p.isSignificant = false := by
    intro l r p hp
    rw [List.mem_singleton.1 hp]
    rfl
  have htight : ∀ l r, Balanced true [⟨l, space, r⟩] := fun l r =>
    balanced_of_not_significant (hspace l r)
  have hparts := parts?_eq (q := ⟨some ' ', ofMark '?', some ' '⟩)
    (k := ⟨some ' ', ofMark ':', some ' '⟩) rfl rfl hcond halt
    (.append (h.condition_tight (lastChar none before) (some ' '))
      (htight (lastChar (lastChar none before) c) (some '?')))
    (.append (htight (some '?') (headChar (some ' ') a))
      (.append (h.consequent_tight (some ' ') (some ' '))
        (htight (lastChar (some ' ') a) (some ':'))))
    (.append (htight (some ':') (headChar (headChar none after) b))
      (h.alternative_tight (some ' ') (headChar none after))) ?_
    (h.condition_solid.operand? _ _ hqs (hspace _ _))
    (h.consequent_solid.operand? _ _ (hspace _ _) (hspace _ _))
    (h.alternative_solid.operand? _ _ (hspace _ _) hrst)
  · rw [eraseLast?, hl.tokens_source, place_eq, placeWithin_conditional, hparts, Option.map_some,
      Parts.toText, ← hps, ← hrs]
    simp [covered_placeWithin, scriptConditional, space, ofMark, ofWord]
  · simp only [List.forall_mem_append, List.forall_mem_cons]
    have hnil := List.forall_mem_nil fun p => Placed.isQuestion p = false
    exact ⟨⟨⟨rfl, hnil⟩, h.consequent_question _ _, rfl, hnil⟩, rfl, ⟨rfl, hnil⟩,
      h.alternative_question _ _, hquestion _ _⟩

/-! ## What rewriting keeps -/

theorem isBlank_nil : IsBlank [] := nofun

theorem hasNoQuestion_nil : HasNoQuestion [] := fun _ _ _ hp => absurd hp List.not_mem_nil

/-- A conditional that is rewritten in a list is rewritten in a longer one. -/
theorem Rewrites.context {inside : Bool} (h : Rewrites inside ts us) (outer : Bool)
    (A B : List Token) (hA : inside = true ∨ StopsBefore A ∨ outer = false ∧ IsBlank A)
    (hB : inside = true ∨ StopsAfter B ∨ outer = false ∧ IsBlank B) (hq : HasNoQuestion B) :
    Rewrites outer (A ++ (ts ++ B)) (A ++ (us ++ B)) := by
  obtain ⟨h, hbefore, hafter, hquestion⟩ := h
  rename_i before c a b after
  have hbefore' : StopsBefore (A ++ before) ∨ outer = false ∧ IsBlank (A ++ before) := by
    rcases hbefore with hbefore | ⟨rfl, hbefore⟩
    · exact .inl (hbefore.append_left A)
    · rcases hA with hA | hA | ⟨houter, hA⟩
      · exact absurd hA nofun
      · exact .inl (hA.append_blank hbefore)
      · exact .inr ⟨houter, fun t ht => (List.mem_append.1 ht).elim (hA t) (hbefore t)⟩
  have hafter' : StopsAfter (after ++ B) ∨ outer = false ∧ IsBlank (after ++ B) := by
    rcases hafter with hafter | ⟨rfl, hafter⟩
    · exact .inl (hafter.append_right B)
    · rcases hB with hB | hB | ⟨houter, hB⟩
      · exact absurd hB nofun
      · exact .inl (hB.append_blank hafter)
      · exact .inr ⟨houter, fun t ht => (List.mem_append.1 ht).elim (hafter t) (hB t)⟩
  have hintro := Rewrites.intro h hbefore' hafter' (everywhere_append hquestion hq)
  simpa only [List.append_assoc] using hintro

theorem Rewrites.loosen {inside : Bool} (h : Rewrites inside ts us) : Rewrites false ts us := by
  have hcontext := h.context false [] [] (.inr (.inr ⟨rfl, isBlank_nil⟩))
    (.inr (.inr ⟨rfl, isBlank_nil⟩)) hasNoQuestion_nil
  simpa only [List.nil_append, List.append_nil] using hcontext

theorem Rewrites.isSolid {inside : Bool} (h : Rewrites inside ts us) (hs : IsSolid ts) :
    IsSolid us := by
  obtain ⟨h, -, -, -⟩ := h
  rename_i before c a b after
  constructor
  · cases before with
    | nil => exact ⟨_, _, rfl, nofun⟩
    | cons t before =>
      obtain ⟨t', us', htu, ht'⟩ := hs.head
      obtain rfl := (List.cons.inj htu).1
      exact ⟨t, _, rfl, ht'⟩
  · rcases List.eq_nil_or_concat after with rfl | ⟨after, t, rfl⟩
    · obtain ⟨xs, hxs⟩ := exists_scriptConditional c a b
      exact ⟨before ++ xs, ofMark ')', by simp [hxs], nofun⟩
    · obtain ⟨us', t', htu, ht'⟩ := hs.last
      refine ⟨before ++ (scriptConditional c a b ++ after), t, by simp, ?_⟩
      have hlast := congrArg List.getLast? htu
      simp at hlast
      rw [hlast]
      exact ht'

theorem conditional_eq_spaced (c a b : List Token) :
    conditional c a b = spaced [c, [ofMark '?'], a, [ofMark ':'], b] := by
  simp [conditional, spaced]

theorem scriptConditional_eq_spaced (c a b : List Token) :
    scriptConditional c a b =
      spaced [[ofMark '(', ofWord "if".toList], c, [ofMark '\x7b'], a, [ofMark '\x7d'],
        [ofWord "else".toList], [ofMark '\x7b'], b, [ofMark '\x7d', ofMark ')']] := by
  simp [scriptConditional, spaced]

/-- The form that scripts have for a conditional is read back if its parts are. -/
theorem lexed_scriptConditional {c a b : List Token} (hc : Lexed c) (ha : Lexed a) (hb : Lexed b)
    (hsc : IsSolid c) (hsa : IsSolid a) (hsb : IsSolid b) : Lexed (scriptConditional c a b) := by
  have hmark : ∀ d, IsSolid [ofMark d] := fun d => isSolid_singleton nofun
  have hif : Lexed [ofMark '(', ofWord "if".toList] :=
    (lexed_singleton (.word (List.all_eq_true.1 (by decide)))).joint_cons (by decide)
  have hend : Lexed [ofMark '\x7d', ofMark ')'] := (lexed_joint (by decide)).joint_cons (by decide)
  rw [scriptConditional_eq_spaced]
  refine lexed_spaced ?_ ?_ <;> simp only [List.forall_mem_cons]
  · exact ⟨⟨⟨_, _, rfl, nofun⟩, ⟨[_], _, rfl, nofun⟩⟩, hsc, hmark _, hsa, hmark _,
      isSolid_singleton nofun, hmark _, hsb, ⟨⟨_, _, rfl, nofun⟩, ⟨[_], _, rfl, nofun⟩⟩, nofun⟩
  · exact ⟨hif, hc, lexed_joint (by decide), ha, lexed_joint (by decide),
      lexed_singleton (.word (List.all_eq_true.1 (by decide))), lexed_joint (by decide), hb, hend,
      nofun⟩

/-- A text that is read back is still read back after a conditional in it was rewritten. -/
theorem Rewrites.lexed {inside : Bool} (h : Rewrites inside ts us) (hl : Lexed ts) : Lexed us := by
  obtain ⟨h, -, -, -⟩ := h
  rename_i before c a b after
  obtain ⟨hbefore, hrest, -⟩ := lexed_append.1 hl
  obtain ⟨hcond, hafter, -⟩ := lexed_append.1 hrest
  obtain ⟨hca, hb, -⟩ := lexed_append.1 hcond
  obtain ⟨hc, ha, -⟩ := lexed_append.1 hca
  have hscript := lexed_scriptConditional hc ha.tail.tail.tail hb.tail.tail.tail h.condition_solid
    h.consequent_solid h.alternative_solid
  obtain ⟨xs, hxs⟩ := exists_scriptConditional c a b
  refine lexed_append.2 ⟨hbefore, lexed_append.2 ⟨hscript, hafter, ?_⟩, ?_⟩
  · intro t ht u hu
    rw [hxs, List.getLast?_concat, Option.mem_some_iff] at ht
    exact ht ▸ mark_precedes (by decide) u
  · rintro t ht u ⟨⟩
    exact precedes_joint (by decide) t

/-- A text without conditionals is left alone. -/
theorem HasNoQuestion.eraseLast?_source (h : HasNoQuestion ts) (hl : Lexed ts) :
    eraseLast? (source ts) = none := by
  have hparts : parts? (placeWithin none none ts) = none := by
    rw [parts?, splitQuestion?_eq_none (h none none)]
    rfl
  rw [eraseLast?, hl.tokens_source, place_eq, hparts, Option.map_none]

end NavigationBar.Template
