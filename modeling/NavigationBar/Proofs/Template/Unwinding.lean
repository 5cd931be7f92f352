import NavigationBar.Proofs.Template.LastConditional

/-!
# Unwinding conditionals

`Pending n before after` describes the texts that the pass goes through: `n` conditionals of the
text `before` are still to be rewritten, and when they are the text is `after`. Brackets keep
conditionals apart, so it distinguishes operands, whose conditionals all stand in brackets, from
expressions, and these from what brackets may hold. A round of the pass rewrites one conditional and
leaves a text of the same kind (`Pending.step`); so the pass ends, and it ends with `after`.
-/

namespace NavigationBar.Template

open Token

/-- The kinds of texts in which conditionals are rewritten. -/
inductive TextKind where
  /-- A text whose conditionals all stand in brackets. -/
  | operand
  /-- A conditional or an operand. -/
  | expression
  /-- What stands between two brackets. -/
  | items
deriving DecidableEq

/-- Texts of which some conditionals are to be rewritten yet, with their form when all are. -/
inductive Pending : TextKind → Nat → List Token → List Token → Prop where
  /-- Tokens that are neither brackets nor ends of conditions. -/
  | plain {ts : List Token} (h : Everywhere Placed.IsPlain ts) : Pending .operand 0 ts ts
  /-- One operand after another. -/
  | append {m n : Nat} {ts ts' us us' : List Token} (ht : Pending .operand m ts ts')
    (hu : Pending .operand n us us') : Pending .operand (m + n) (ts ++ us) (ts' ++ us')
  /-- Brackets around items. -/
  | group {n : Nat} {o c : Char} {ts ts' : List Token} (ho : o ∈ ['(', '[', '\x7b'])
    (hc : c ∈ [')', ']', '\x7d']) (ht : Pending .items n ts ts') :
    Pending .operand n (ofMark o :: (ts ++ [ofMark c])) (ofMark o :: (ts' ++ [ofMark c]))
  /-- An operand as an expression. -/
  | operand {n : Nat} {ts ts' : List Token} (hs : IsSolid ts) (ht : Pending .operand n ts ts') :
    Pending .expression n ts ts'
  /-- A conditional. -/
  | choice {i j k : Nat} {c c' a a' b b' : List Token} (hs : IsSolid c)
    (hc : Pending .operand i c c') (ha : Pending .expression j a a')
    (hb : Pending .expression k b b') :
    Pending .expression (i + j + k + 1) (conditional c a b) (scriptConditional c' a' b')
  /-- No items. -/
  | none : Pending .items 0 [] []
  /-- One item. -/
  | item {n : Nat} {ts ts' : List Token} (ht : Pending .expression n ts ts') :
    Pending .items n ts ts'
  /-- One item between spaces. -/
  | loose {n : Nat} {ts ts' : List Token} (ht : Pending .expression n ts ts') :
    Pending .items n ([space] ++ (ts ++ [space])) ([space] ++ (ts' ++ [space]))
  /-- An item with a key. -/
  | keyed {n : Nat} {w : List Char} {ts ts' : List Token} (hw : w.getLast? ≠ some ':')
    (ht : Pending .expression n ts ts') :
    Pending .items n ([ofWord w, ofMark ':', space] ++ ts) ([ofWord w, ofMark ':', space] ++ ts')
  /-- Items with a comma between them. -/
  | comma {m n : Nat} {ts ts' us us' : List Token} (ht : Pending .items m ts ts')
    (hu : Pending .items n us us') :
    Pending .items (m + n) (ts ++ ([ofMark ',', space] ++ us)) (ts' ++ ([ofMark ',', space] ++ us'))

variable {kind : TextKind} {m n : Nat} {ts ts' us us' : List Token}

/-! ## What such texts look like -/

theorem Pending.isSolid (h : Pending kind n ts ts') (hk : kind = .expression) : IsSolid ts := by
  induction h with
  | operand hs ht ih => exact hs
  | @choice i j k c c' a a' b b' hs hc ha hb ihc iha ihb =>
    have happend := hs.append (ihb rfl) (space :: ofMark '?' :: space :: a ++
      [space, ofMark ':', space])
    simpa [conditional] using happend
  | _ => cases hk

theorem hasNoQuestion_of_isPlain (h : Everywhere Placed.IsPlain ts) : HasNoQuestion ts := by
  intro left right p hp
  have hend := (h left right p hp).condition
  simp only [Placed.endsCondition, Bool.or_eq_false_iff] at hend
  exact hend.1.1.1.2

theorem hasNoQuestion_of_forall_kind (h : ∀ t ∈ ts, t.kind ≠ .mark '?') : HasNoQuestion ts :=
  everywhere_of_forall fun t ht left right => by
    simp [Placed.isQuestion, Placed.isMark, h t ht]

theorem hasNoQuestion_bracket {d : Char} (hd : d ∈ ['(', '[', '\x7b'] ++ [')', ']', '\x7d']) :
    HasNoQuestion [ofMark d] := by
  refine hasNoQuestion_of_forall_kind fun t ht => ?_
  rw [List.mem_singleton.1 ht]
  rintro ⟨⟩
  exact absurd hd (by decide)

/-- When no conditional is left the text has its final form. -/
theorem Pending.eq_of_zero (h : Pending kind n ts ts') (hn : n = 0) :
    ts = ts' ∧ HasNoQuestion ts := by
  induction h with
  | plain h => exact ⟨rfl, hasNoQuestion_of_isPlain h⟩
  | append ht hu iht ihu =>
    obtain ⟨rfl, hqt⟩ := iht (by omega)
    obtain ⟨rfl, hqu⟩ := ihu (by omega)
    exact ⟨rfl, everywhere_append hqt hqu⟩
  | group ho hc ht ih =>
    obtain ⟨rfl, hq⟩ := ih hn
    refine ⟨rfl, ?_⟩
    rw [← List.singleton_append]
    exact everywhere_append (hasNoQuestion_bracket (List.mem_append_left _ ho))
      (everywhere_append hq (hasNoQuestion_bracket (List.mem_append_right _ hc)))
  | operand hs ht ih => exact ih hn
  | choice => exact absurd hn (Nat.succ_ne_zero _)
  | none => exact ⟨rfl, hasNoQuestion_nil⟩
  | item ht ih => exact ih hn
  | loose ht ih =>
    obtain ⟨rfl, hq⟩ := ih hn
    have hspace : HasNoQuestion [space] := hasNoQuestion_of_forall_kind (by decide)
    exact ⟨rfl, everywhere_append hspace (everywhere_append hq hspace)⟩
  | keyed hw ht ih =>
    obtain ⟨rfl, hq⟩ := ih hn
    refine ⟨rfl, everywhere_append (hasNoQuestion_of_forall_kind ?_) hq⟩
    simp [ofWord, ofMark, space]
  | comma ht hu iht ihu =>
    obtain ⟨rfl, hqt⟩ := iht (by omega)
    obtain ⟨rfl, hqu⟩ := ihu (by omega)
    exact ⟨rfl, everywhere_append hqt
      (everywhere_append (hasNoQuestion_of_forall_kind (by decide)) hqu)⟩

theorem balanced_placeWithin_append {tight : Bool}
    (ht : ∀ left right, Balanced tight (placeWithin left right ts))
    (hu : ∀ left right, Balanced tight (placeWithin left right us)) (left right : Option Char) :
    Balanced tight (placeWithin left right (ts ++ us)) := by
  rw [placeWithin_append]
  exact .append (ht _ _) (hu _ _)

/-- Tokens that are no brackets. -/
theorem balanced_of_forall_kind (ts : List Token)
    (h : ∀ t ∈ ts, t.kind ∉ (['(', '[', '\x7b'] ++ [')', ']', '\x7d']).map .mark)
    (left right : Option Char) : Balanced false (placeWithin left right ts) := by
  induction ts generalizing left with
  | nil => exact .nil false
  | cons t ts ih =>
    obtain ⟨ht, hts⟩ := List.forall_mem_cons.1 h
    simp only [List.cons_append, List.nil_append, List.map_cons, List.mem_cons, not_or] at ht
    obtain ⟨h₁, h₂, h₃, h₄, h₅, h₆, -⟩ := ht
    rw [placeWithin, ← List.singleton_append]
    refine .append (.single ?_ ?_ (Bool.noConfusion ·)) (ih hts _)
    · simp [Placed.isOpening, Placed.isMark, h₁, h₂, h₃]
    · simp [Placed.isClosing, Placed.isMark, h₄, h₅, h₆]

theorem isOpening_of_mem {d : Char} (h : d ∈ ['(', '[', '\x7b']) (left right : Option Char) :
    Placed.isOpening ⟨left, ofMark d, right⟩ = true := by
  simp only [List.mem_cons, List.not_mem_nil, or_false] at h
  rcases h with rfl | rfl | rfl <;> rfl

theorem isClosing_of_mem {d : Char} (h : d ∈ [')', ']', '\x7d']) (left right : Option Char) :
    Placed.isClosing ⟨left, ofMark d, right⟩ = true := by
  simp only [List.mem_cons, List.not_mem_nil, or_false] at h
  rcases h with rfl | rfl | rfl <;> rfl

/-- The brackets match. -/
theorem Pending.balanced (h : Pending kind n ts ts') :
    ∀ left right, Balanced false (placeWithin left right ts) := by
  have hspace := balanced_of_forall_kind [space] (by decide)
  induction h with
  | plain h => exact fun left right => balanced_of_forall_isPlain (h left right)
  | append ht hu iht ihu => exact balanced_placeWithin_append iht ihu
  | group ho hc ht ih =>
    intro left right
    rw [placeWithin, placeWithin_append]
    exact .group (isOpening_of_mem ho _ _) (ih _ _) (isClosing_of_mem hc _ _)
  | operand hs ht ih => exact ih
  | choice hs hc ha hb ihc iha ihb =>
    have hmark := balanced_of_forall_kind [space, ofMark '?', space] (by decide)
    have hcolon := balanced_of_forall_kind [space, ofMark ':', space] (by decide)
    have happend := balanced_placeWithin_append ihc <| balanced_placeWithin_append hmark <|
      balanced_placeWithin_append iha <| balanced_placeWithin_append hcolon ihb
    simpa [conditional] using happend
  | none => exact fun _ _ => .nil false
  | item ht ih => exact ih
  | loose ht ih => exact balanced_placeWithin_append hspace (balanced_placeWithin_append ih hspace)
  | keyed hw ht ih =>
    refine balanced_placeWithin_append (balanced_of_forall_kind _ ?_) ih
    simp [ofWord, ofMark, space]
  | comma ht hu iht ihu =>
    exact balanced_placeWithin_append iht
      (balanced_placeWithin_append (balanced_of_forall_kind _ (by decide)) ihu)

/-- No condition begins in an operand, nor in an expression of which no conditional is left, but
within brackets. -/
theorem Pending.isTight (h : Pending kind n ts ts')
    (hk : kind = .operand ∨ kind = .expression ∧ n = 0) : IsTight ts := by
  induction h with
  | plain h => exact fun left right => balanced_of_forall_isPlain (h left right)
  | append ht hu iht ihu =>
    exact balanced_placeWithin_append (iht (.inl rfl)) (ihu (.inl rfl))
  | group ho hc ht ih =>
    intro left right
    rw [placeWithin, placeWithin_append]
    exact .group (isOpening_of_mem ho _ _) (ht.balanced _ _) (isClosing_of_mem hc _ _)
  | operand hs ht ih => exact ih (.inl rfl)
  | _ => simp at hk

/-- There are as many question marks as conditionals at least. -/
theorem Pending.le_count (h : Pending kind n ts ts') : n ≤ (source ts).count '?' := by
  induction h with
  | plain h => exact Nat.zero_le _
  | append ht hu iht ihu =>
    rw [source_append, List.count_append]
    omega
  | group ho hc ht ih =>
    rw [source_cons, source_append, List.count_append, List.count_append]
    omega
  | operand hs ht ih => exact ih
  | choice hs hc ha hb ihc iha ihb =>
    simp only [conditional, source_append, source_cons, List.count_append]
    have hmark : (ofMark '?').text.count '?' = 1 := by decide
    omega
  | none => exact Nat.zero_le _
  | item ht ih => exact ih
  | loose ht ih =>
    rw [source_append, source_append, List.count_append, List.count_append]
    omega
  | keyed hw ht ih =>
    rw [source_append, List.count_append]
    omega
  | comma ht hu iht ihu =>
    rw [source_append, source_append, List.count_append, List.count_append]
    omega

/-! ## Rounds of the pass -/

theorem stopsBefore_opening {o : Char} (ho : o ∈ ['(', '[', '\x7b']) : StopsBefore [ofMark o] := by
  intro left right
  have hopen := isOpening_of_mem ho left right
  exact ⟨[], _, [], rfl, nofun, isClosing_of_isOpening hopen,
    Bool.or_eq_true_iff.2 (.inl hopen)⟩

theorem stopsAfter_closing {c : Char} (hc : c ∈ [')', ']', '\x7d']) : StopsAfter [ofMark c] := by
  intro left right
  have hclose := isClosing_of_mem hc left right
  exact ⟨[], _, [], rfl, nofun, Placed.isOpening_of_isClosing hclose,
    Bool.or_eq_true_iff.2 (.inl hclose)⟩

theorem isSignificant_space (left right : Option Char) :
    ∀ p ∈ [(⟨left, space, right⟩ : Placed)], p.isSignificant = false := by
  intro p hp
  rw [List.mem_singleton.1 hp]
  rfl

theorem stopsBefore_question : StopsBefore [space, ofMark '?', space] := fun _ _ =>
  ⟨[_], _, [_], rfl, isSignificant_space _ _, rfl, rfl⟩

theorem stopsBefore_colon : StopsBefore [space, ofMark ':', space] := fun _ _ =>
  ⟨[_], _, [_], rfl, isSignificant_space _ _, rfl, rfl⟩

theorem stopsAfter_colon : StopsAfter [space, ofMark ':', space] := fun _ _ =>
  ⟨[_], _, [_], rfl, isSignificant_space _ _, rfl, rfl⟩

theorem stopsBefore_key {w : List Char} (hw : w.getLast? ≠ some ':') :
    StopsBefore [ofWord w, ofMark ':', space] := by
  intro left right
  refine ⟨[_], ⟨w.getLast?, ofMark ':', some ' '⟩, [_], rfl, isSignificant_space _ _, rfl, ?_⟩
  have hcolon : Placed.isColon ⟨w.getLast?, ofMark ':', some ' '⟩ = true := by
    simp [Placed.isColon, Placed.isMark, ofMark, hw]
  simp [Placed.endsCondition, hcolon]

theorem stopsBefore_comma : StopsBefore [ofMark ',', space] := fun _ _ =>
  ⟨[], _, [_], rfl, isSignificant_space _ _, rfl, rfl⟩

theorem stopsAfter_comma : StopsAfter [ofMark ',', space] := fun _ _ =>
  ⟨[], _, [_], rfl, nofun, rfl, rfl⟩

theorem Pending.of_eq (h : Pending kind m ts ts') (hn : m = n) (ht : ts = us) (hu : ts' = us') :
    Pending kind n us us' := by
  subst hn ht hu
  exact h

theorem pending_space : Pending .operand 0 [space] [space] :=
  .plain fun _ _ p hp => Placed.isPlain_of_not_significant (isSignificant_space _ _ p hp)

theorem isPlain_ofWord {w : List Char} (hw : w ∉ Placed.outerWords) :
    Everywhere Placed.IsPlain [ofWord w] := by
  refine everywhere_of_forall fun t ht left right => ?_
  rw [List.mem_singleton.1 ht]
  refine ⟨rfl, rfl, ?_⟩
  have hcontains : Placed.outerWords.contains w = false := by simpa using hw
  rw [Placed.endsCondition]
  simpa [Placed.isMark, Placed.isQuestion, Placed.isColon, Placed.isAssignment, ofWord] using
    hcontains

/-- The form that scripts have for a conditional is an operand. -/
theorem Pending.script {i j k : ℕ} {c c' a a' b b' : List Token}
    (hc : Pending .operand i c c') (ha : Pending .expression j a a')
    (hb : Pending .expression k b b') :
    Pending .operand (i + j + k) (scriptConditional c a b) (scriptConditional c' a' b') := by
  have hword : ∀ {w : List Char}, w ∉ Placed.outerWords →
      Pending .operand 0 [ofWord w] [ofWord w] := fun hw => .plain (isPlain_ofWord hw)
  have hblock : ∀ {n : ℕ} {ts ts' : List Token}, Pending .expression n ts ts' →
      Pending .operand n _ _ := fun h =>
    Pending.group (o := '\x7b') (c := '\x7d') (by decide) (by decide) (.loose h)
  have hinner := (hword (w := "if".toList) (by decide)).append <| pending_space.append <|
    hc.append <| pending_space.append <| (hblock ha).append <| pending_space.append <|
    (hword (w := "else".toList) (by decide)).append <| pending_space.append (hblock hb)
  refine (Pending.group (o := '(') (c := ')') (by decide) (by decide)
    (.item (.operand ?_ hinner))).of_eq (by omega) ?_ ?_
  · have hif : IsSolid [ofWord "if".toList] := isSolid_singleton nofun
    have hbrace : IsSolid [ofMark '\x7d'] := isSolid_singleton nofun
    simpa using hif.append hbrace ([space] ++ c ++ [space, ofMark '\x7b', space] ++ a ++
      [space, ofMark '\x7d', space, ofWord "else".toList, space, ofMark '\x7b', space] ++ b ++
      [space])
  · simp [scriptConditional]
  · simp [scriptConditional]

/-- A conditional with no other one in its operands, but within the brackets of its condition. -/
theorem Pending.isConditional {i : ℕ} {c c' a a' b b' : List Token} (hs : IsSolid c)
    (hc : Pending .operand i c c') (ha : Pending .expression 0 a a')
    (hb : Pending .expression 0 b b') : IsConditional c a b where
  condition_solid := hs
  consequent_solid := ha.isSolid rfl
  alternative_solid := hb.isSolid rfl
  condition_tight := hc.isTight (.inl rfl)
  consequent_tight := ha.isTight (.inr ⟨rfl, rfl⟩)
  alternative_tight := hb.isTight (.inr ⟨rfl, rfl⟩)
  consequent_question := (ha.eq_of_zero rfl).2
  alternative_question := (hb.eq_of_zero rfl).2

/-- A conditional that is all of a text is its last one. -/
theorem IsConditional.rewrites {c a b : List Token} (h : IsConditional c a b) :
    Rewrites false (conditional c a b) (scriptConditional c a b) := by
  have hrewrites : Rewrites false ([] ++ (conditional c a b ++ [])) _ :=
    .intro h (.inr ⟨rfl, isBlank_nil⟩) (.inr ⟨rfl, isBlank_nil⟩) hasNoQuestion_nil
  rwa [List.append_nil, List.append_nil, List.nil_append, List.nil_append] at hrewrites

/-- A round of the pass rewrites one conditional, and leaves a text of the same kind. -/
theorem Pending.step (h : Pending kind n ts us) (hn : n = m + 1) :
    ∃ ts', Rewrites (decide (kind = .operand)) ts ts' ∧ Pending kind m ts' us := by
  have hspace : IsBlank [space] := fun t ht => List.mem_singleton.1 ht ▸ rfl
  induction h generalizing m with
  | plain h => exact absurd hn (by omega)
  | @append p q ts ts' us us' ht hu iht ihu =>
    -- The last conditional is in the second operand, if one is left there.
    cases q with
    | succ q =>
      obtain ⟨us₁, hrewrites, hpending⟩ := ihu rfl
      refine ⟨ts ++ us₁, ?_, (ht.append hpending).of_eq (by omega) rfl rfl⟩
      simpa using hrewrites.context true ts [] (.inl rfl) (.inl rfl) hasNoQuestion_nil
    | zero =>
      obtain ⟨ts₁, hrewrites, hpending⟩ := iht hn
      refine ⟨ts₁ ++ us, ?_, (hpending.append hu).of_eq (by omega) rfl rfl⟩
      exact hrewrites.context true [] us (.inl rfl) (.inl rfl) (hu.eq_of_zero rfl).2
  | @group n o c ts ts' ho hc ht ih =>
    obtain ⟨ts₁, hrewrites, hpending⟩ := ih hn
    have hquestion := hasNoQuestion_bracket (List.mem_append_right ['(', '[', '\x7b'] hc)
    exact ⟨_, hrewrites.context true [ofMark o] [ofMark c] (.inr (.inl (stopsBefore_opening ho)))
      (.inr (.inl (stopsAfter_closing hc))) hquestion, .group ho hc hpending⟩
  | operand hs ht ih =>
    obtain ⟨ts₁, hrewrites, hpending⟩ := ih hn
    exact ⟨ts₁, hrewrites.loosen, .operand (hrewrites.isSolid hs) hpending⟩
  | @choice i j k c c' a a' b b' hs hc ha hb ihc iha ihb =>
    -- The last conditional is in `b`, else in `a`, else it is this one.
    cases k with
    | succ k =>
      obtain ⟨b₁, hrewrites, hpending⟩ := ihb rfl
      refine ⟨conditional c a b₁, ?_, (Pending.choice hs hc ha hpending).of_eq (by omega) rfl rfl⟩
      have hstop := stopsBefore_colon.append_left (c ++ space :: ofMark '?' :: space :: a)
      have hcontext := hrewrites.context false _ [] (.inr (.inl hstop))
        (.inr (.inr ⟨rfl, isBlank_nil⟩)) hasNoQuestion_nil
      simpa [conditional] using hcontext
    | zero =>
      have hqb := (hb.eq_of_zero rfl).2
      cases j with
      | succ j =>
        obtain ⟨a₁, hrewrites, hpending⟩ := iha rfl
        refine ⟨conditional c a₁ b, ?_, (Pending.choice hs hc hpending hb).of_eq (by omega) rfl rfl⟩
        have hstop := stopsBefore_question.append_left c
        have hcolon : HasNoQuestion [space, ofMark ':', space] :=
          hasNoQuestion_of_forall_kind (by decide)
        have hcontext := hrewrites.context false _ _ (.inr (.inl hstop))
          (.inr (.inl (stopsAfter_colon.append_right b))) (everywhere_append hcolon hqb)
        simpa [conditional] using hcontext
      | zero =>
        have hrewrites := (Pending.isConditional hs hc ha hb).rewrites
        have hsolid := hrewrites.isSolid ((Pending.choice hs hc ha hb).isSolid rfl)
        have hscript := (hc.script ha hb).of_eq (n := m) (by omega) rfl rfl
        exact ⟨scriptConditional c a b, hrewrites, .operand hsolid hscript⟩
  | none => exact absurd hn (by omega)
  | item ht ih =>
    obtain ⟨ts₁, hrewrites, hpending⟩ := ih hn
    exact ⟨ts₁, hrewrites, .item hpending⟩
  | loose ht ih =>
    obtain ⟨ts₁, hrewrites, hpending⟩ := ih hn
    exact ⟨_, hrewrites.context false [space] [space] (.inr (.inr ⟨rfl, hspace⟩))
      (.inr (.inr ⟨rfl, hspace⟩)) (hasNoQuestion_of_forall_kind (by decide)), .loose hpending⟩
  | @keyed n w ts ts' hw ht ih =>
    obtain ⟨ts₁, hrewrites, hpending⟩ := ih hn
    refine ⟨_, ?_, .keyed hw hpending⟩
    have hcontext := hrewrites.context false [ofWord w, ofMark ':', space] []
      (.inr (.inl (stopsBefore_key hw))) (.inr (.inr ⟨rfl, isBlank_nil⟩)) hasNoQuestion_nil
    rwa [List.append_nil, List.append_nil] at hcontext
  | @comma p q ts ts' us us' ht hu iht ihu =>
    cases q with
    | succ q =>
      obtain ⟨us₁, hrewrites, hpending⟩ := ihu rfl
      refine ⟨_, ?_, (Pending.comma ht hpending).of_eq (by omega) rfl rfl⟩
      have hcontext := hrewrites.context false _ [] (.inr (.inl (stopsBefore_comma.append_left ts)))
        (.inr (.inr ⟨rfl, isBlank_nil⟩)) hasNoQuestion_nil
      simpa using hcontext
    | zero =>
      obtain ⟨ts₁, hrewrites, hpending⟩ := iht hn
      refine ⟨_, ?_, (Pending.comma hpending hu).of_eq (by omega) rfl rfl⟩
      have hcomma : HasNoQuestion [ofMark ',', space] := hasNoQuestion_of_forall_kind (by decide)
      exact hrewrites.context false [] _ (.inr (.inr ⟨rfl, isBlank_nil⟩))
        (.inr (.inl (stopsAfter_comma.append_right us)))
        (everywhere_append hcomma (hu.eq_of_zero rfl).2)

/-- The pass rewrites all conditionals of a text. -/
theorem Pending.eraseAtMost_source (h : Pending .expression n ts us) (hl : Lexed ts) {fuel : Nat}
    (hf : n ≤ fuel) : eraseAtMost (source ts) fuel = source us := by
  induction fuel generalizing n ts with
  | zero =>
    obtain ⟨rfl, -⟩ := h.eq_of_zero (Nat.le_zero.1 hf)
    rfl
  | succ fuel ih =>
    cases n with
    | zero =>
      obtain ⟨rfl, hq⟩ := h.eq_of_zero rfl
      rw [eraseAtMost, hq.eraseLast?_source hl]
    | succ n =>
      obtain ⟨ts₁, hrewrites, hpending⟩ := h.step rfl
      rw [eraseAtMost, hrewrites.eraseLast?_source hl]
      exact ih hpending (hrewrites.lexed hl) (Nat.le_of_succ_le_succ hf)

theorem Pending.eraseConditionals_source (h : Pending .expression n ts us) (hl : Lexed ts) :
    eraseConditionals (source ts) = source us :=
  h.eraseAtMost_source hl h.le_count

end NavigationBar.Template
