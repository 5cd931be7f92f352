import NavigationBar.Proofs.Template.Copying

/-!
# What stands before a conditional

The scan for the begin of a condition stops at brackets and at the tokens of a fixed list. What
stands before a conditional joins its condition unless it ends in one of these. The parameter of a
closure and the value of an arm of a `switch` hold none of them and so become part of the condition;
parentheses keep them apart. The word `in` is on the list, and the left side of a membership test
stays outside of the condition.
-/

namespace NavigationBar.Template

open Token

/-! ## What joins a condition -/

/-- Texts that are read back and become part of a condition that they stand before, in which some
conditionals are to be rewritten yet. -/
structure Joins (n : Nat) (ts ts' : List Token) : Prop where
  solid : IsSolid ts
  lexed : Lexed ts
  pending : Pending .operand n ts ts'
  copied : ∀ rest, Separates rest → Copied (source ts) rest

variable {m n : Nat} {ts ts' us us' mid : List Token}

/-- A term after something that joins it. -/
theorem Joins.append_term (h : Joins n ts ts') (t : Term) :
    ∃ m, Joins m (ts ++ space :: t.tokens conditional) (ts' ++ space :: t.tokens scriptConditional)
      := by
  obtain ⟨k, ht⟩ := t.pending
  obtain ⟨hsolid, hlexed⟩ := t.lexed
  refine ⟨_, h.solid.append hsolid [space], h.lexed.append_space hlexed h.solid hsolid,
    h.pending.append (pending_space.append ht), ?_⟩
  intro rest hrest
  rw [source_append, source_cons, t.source_tokens isWrittenAs_conditional]
  exact Copied.append (h.copied _ (separates_cons (by decide) _))
    ((t.copied rest hrest).lone_cons (by decide))

/-- Without a conditional after it, such a text is an operand like others. -/
theorem Joins.normalize_source (h : Joins n ts ts') : normalize (source ts) = source ts' := by
  rw [normalize, (h.copied [] separates_nil).respell_eq]
  exact (Pending.operand h.solid h.pending).eraseConditionals_source h.lexed

/-- The condition that is found is all that stands before the question mark. -/
theorem Joins.normalize_conditional (h : Joins n ts ts') (a b : Expression) :
    normalize (writtenForm (source ts) (a.text writtenForm) (b.text writtenForm)) =
      scriptForm (source ts') (a.text scriptForm) (b.text scriptForm) := by
  obtain ⟨j, ha⟩ := a.pending
  obtain ⟨k, hb⟩ := b.pending
  obtain ⟨hsa, hla⟩ := a.lexed
  obtain ⟨hsb, hlb⟩ := b.lexed
  have hcopied := copied_writtenForm h.copied a.copied b.copied [] separates_nil
  have hlexed := (lexed_conditional h.lexed hla hlb h.solid hsa hsb).2
  have herase := (Pending.choice h.solid h.pending ha hb).eraseConditionals_source hlexed
  rw [isWrittenAs_conditional, isWrittenAs_scriptConditional] at herase
  simp only [Expression.source_tokens isWrittenAs_conditional,
    Expression.source_tokens isWrittenAs_scriptConditional] at herase
  rw [normalize, hcopied.respell_eq, herase]

/-! ## Closures and arms -/

/-- What stands before the body of a closure, and before the result of an arm of a `switch`. -/
inductive Lead where
  /-- The parameter of a closure. -/
  | parameter (p : Name)
  /-- The value of an arm. -/
  | arm (v : Term)

namespace Lead

/-- The text of a lead, with conditionals in a given form. -/
def text (form : ConditionalForm Char) : Lead → List Char
  | parameter p => '|' :: (p.text ++ ['|'])
  | arm v => v.text form ++ [' ', '=', '>']

/-- The tokens of a lead, with conditionals in a given form. -/
def tokens (form : ConditionalForm Token) : Lead → List Token
  | parameter p => ofMark '|' :: ([ofWord p.text] ++ [ofMark '|'])
  | arm v => v.tokens form ++ [space, ofMark '=', ofMark '>']

theorem source_tokens {form : ConditionalForm Char} {tokenForm : ConditionalForm Token}
    (h : IsWrittenAs tokenForm form) (l : Lead) : source (l.tokens tokenForm) = l.text form := by
  cases l with
  | parameter p => simp [tokens, text, ofMark, ofWord]
  | arm v => simp [tokens, text, v.source_tokens h, ofMark, space]

theorem lexed_arrow : Lexed [ofMark '=', ofMark '>'] := by
  have hequals : (ofMark '=').IsWhole := .mark (by decide) (by decide) (by decide) (by decide)
  have hgreater : (ofMark '>').IsWhole := .mark (by decide) (by decide) (by decide) (by decide)
  refine (lexed_singleton hgreater).cons hequals ?_
  rintro t ⟨⟩
  exact mark_precedes (by decide) _

/-- The equals sign of an arrow is no assignment, so no condition ends at an arrow. -/
theorem isPlain_arrow : Everywhere Placed.IsPlain [ofMark '=', ofMark '>'] := by
  intro left right p hp
  simp only [placeWithin, List.mem_cons, List.not_mem_nil, or_false] at hp
  rcases hp with rfl | rfl <;> constructor <;>
    simp [Placed.isOpening, Placed.isClosing, Placed.endsCondition, Placed.isQuestion,
      Placed.isColon, Placed.isAssignment, Placed.isMark, ofMark, headChar]

theorem copied_arrow (rest : List Char) : Copied ['=', '>'] rest := by
  have hstart : isWordStart '=' = false := by decide
  exact Copied.append (copied_of_read_other (by simp [Piece.read, hstart]))
    ((copied_nil rest).lone_cons (by decide))

/-- A lead joins the condition after it. -/
theorem joins (l : Lead) : ∃ n, Joins n (l.tokens conditional) (l.tokens scriptConditional) := by
  cases l with
  | parameter p =>
    have hbar : Everywhere Placed.IsPlain [ofMark '|'] := isPlain_ofMark (by decide)
    refine ⟨0, ⟨⟨_, _, rfl, nofun⟩, ⟨[_, _], _, rfl, nofun⟩⟩,
      (lexed_singleton p.isWhole).brackets (by decide) (by decide),
      .plain (everywhere_append hbar (everywhere_append p.isPlain hbar)), ?_⟩
    intro rest _
    rw [source_tokens isWrittenAs_conditional]
    exact copied_brackets (by decide) (by decide) (p.copied (separates_cons (by decide) _))
  | arm v =>
    obtain ⟨n, hv⟩ := v.pending
    obtain ⟨hsolid, hlexed⟩ := v.lexed
    have harrow : IsSolid [ofMark '=', ofMark '>'] := ⟨⟨_, _, rfl, nofun⟩, ⟨[_], _, rfl, nofun⟩⟩
    refine ⟨_, hsolid.append harrow [space], hlexed.append_space lexed_arrow hsolid harrow,
      hv.append (pending_space.append (.plain isPlain_arrow)), ?_⟩
    intro rest _
    rw [source_tokens isWrittenAs_conditional]
    exact Copied.append (v.copied _ (separates_cons (by decide) _))
      ((copied_arrow rest).lone_cons (by decide))

theorem source_term {form : ConditionalForm Char} {tokenForm : ConditionalForm Token}
    (h : IsWrittenAs tokenForm form) (l : Lead) (t : Term) :
    source (l.tokens tokenForm ++ space :: t.tokens tokenForm) =
      l.text form ++ ' ' :: t.text form := by
  simp [l.source_tokens h, t.source_tokens h, space]

/-- A term keeps to itself, and so does a conditional in parentheses. -/
theorem normalize_term (l : Lead) (t : Term) :
    normalize (l.text writtenForm ++ ' ' :: t.text writtenForm) =
      l.text scriptForm ++ ' ' :: t.text scriptForm := by
  obtain ⟨m, hl⟩ := l.joins
  obtain ⟨n, ht⟩ := hl.append_term t
  rw [← l.source_term isWrittenAs_conditional, ← l.source_term isWrittenAs_scriptConditional]
  exact ht.normalize_source

/-- The condition of a conditional reaches over the lead. -/
theorem normalize_conditional (l : Lead) (c : Term) (a b : Expression) :
    normalize (l.text writtenForm ++ ' ' :: (Expression.conditional c a b).text writtenForm) =
      scriptForm (l.text scriptForm ++ ' ' :: c.text scriptForm) (a.text scriptForm)
        (b.text scriptForm) := by
  obtain ⟨m, hl⟩ := l.joins
  obtain ⟨n, hc⟩ := hl.append_term c
  rw [← l.source_term isWrittenAs_scriptConditional, ← hc.normalize_conditional a b,
    l.source_term isWrittenAs_conditional]
  simp [writtenForm, Expression.text]

end Lead

/-! ## What stays outside -/

/-- What no condition reaches over keeps what is before it apart from the expression after it. -/
theorem eraseAtMost_beside (ht : Pending .operand m ts ts') (hu : Pending .expression n us us')
    (hstop : StopsBefore mid) (hmid : HasNoQuestion mid) (hl : Lexed (ts ++ (mid ++ us)))
    {fuel : Nat} (hf : m + n ≤ fuel) :
    eraseAtMost (source (ts ++ (mid ++ us))) fuel = source (ts' ++ (mid ++ us')) := by
  induction fuel generalizing m n ts us with
  | zero =>
    obtain ⟨rfl, -⟩ := ht.eq_of_zero (by omega)
    obtain ⟨rfl, -⟩ := hu.eq_of_zero (by omega)
    rfl
  | succ fuel ih =>
    -- The last conditional is in the expression, if one is left there.
    cases n with
    | succ n =>
      obtain ⟨us₁, hrewrites, hpending⟩ := hu.step rfl
      have hcontext := hrewrites.context false (ts ++ mid) []
        (.inr (.inl (hstop.append_left ts))) (.inr (.inr ⟨rfl, isBlank_nil⟩)) hasNoQuestion_nil
      simp only [List.append_nil, List.append_assoc] at hcontext
      rw [eraseAtMost, hcontext.eraseLast?_source hl]
      exact ih ht hpending (hcontext.lexed hl) (by omega)
    | zero =>
      have hquestion := everywhere_append hmid (hu.eq_of_zero rfl).2
      cases m with
      | succ m =>
        obtain ⟨ts₁, hrewrites, hpending⟩ := ht.step rfl
        have hcontext := hrewrites.context false [] (mid ++ us) (.inl rfl) (.inl rfl) hquestion
        simp only [List.nil_append] at hcontext
        rw [eraseAtMost, hcontext.eraseLast?_source hl]
        exact ih hpending hu (hcontext.lexed hl) (by omega)
      | zero =>
        obtain ⟨rfl, hq⟩ := ht.eq_of_zero rfl
        obtain ⟨rfl, -⟩ := hu.eq_of_zero rfl
        have hnone : HasNoQuestion (ts ++ (mid ++ us)) := everywhere_append hq hquestion
        rw [eraseAtMost, hnone.eraseLast?_source hl]

theorem eraseConditionals_beside (ht : Pending .operand m ts ts')
    (hu : Pending .expression n us us') (hstop : StopsBefore mid) (hmid : HasNoQuestion mid)
    (hl : Lexed (ts ++ (mid ++ us))) :
    eraseConditionals (source (ts ++ (mid ++ us))) = source (ts' ++ (mid ++ us')) := by
  refine eraseAtMost_beside ht hu hstop hmid hl ?_
  have hm := ht.le_count
  have hn := hu.le_count
  simp only [source_append, List.count_append]
  omega

/-- No condition reaches over `in`. -/
theorem stopsBefore_in : StopsBefore [space, ofWord "in".toList, space] := fun _ _ =>
  ⟨[_], _, [_], rfl, isSignificant_space _ _, rfl, rfl⟩

theorem lexed_member {x m : List Token} (hx : Lexed x) (hm : Lexed m) (hsx : IsSolid x)
    (hsm : IsSolid m) : Lexed (x ++ ([space, ofWord "in".toList, space] ++ m)) := by
  have hin : IsSolid [ofWord "in".toList] := isSolid_singleton nofun
  have hword : Lexed [ofWord "in".toList] :=
    lexed_singleton (.word (List.all_eq_true.1 (by decide)))
  exact hx.append_space (hword.append_space hm hin hsm) hsx (hin.append hsm [space])

/-- The left side of a membership test stays outside of the expression after it. -/
theorem normalize_member (x : Term) (e : Expression) :
    normalize (x.text writtenForm ++ ' ' :: 'i' :: 'n' :: ' ' :: e.text writtenForm) =
      x.text scriptForm ++ ' ' :: 'i' :: 'n' :: ' ' :: e.text scriptForm := by
  obtain ⟨m, hx⟩ := x.pending
  obtain ⟨n, he⟩ := e.pending
  have hcopied : Copied (x.text writtenForm ++ ' ' :: ("in".toList ++ ' ' :: e.text writtenForm))
      [] := by
    refine copied_spaces (x.copied _ (separates_cons (by decide) _)) ?_ (e.copied [] separates_nil)
    exact copied_word (by decide) (List.all_eq_true.1 (by decide)) (by decide)
      (separates_cons (by decide) _)
  obtain ⟨hsx, hlx⟩ := x.lexed
  obtain ⟨hse, hle⟩ := e.lexed
  have herase := eraseConditionals_beside hx he stopsBefore_in
    (hasNoQuestion_of_forall_kind (by decide)) (lexed_member hlx hle hsx hse)
  simp only [source_append, x.source_tokens isWrittenAs_conditional,
    x.source_tokens isWrittenAs_scriptConditional, e.source_tokens isWrittenAs_conditional,
    e.source_tokens isWrittenAs_scriptConditional] at herase
  exact (congrArg eraseConditionals hcopied.respell_eq).trans herase

/-! ## Conditionals in their surroundings -/

/-- A condition reaches over the parameter of a closure and over the value of an arm, but not over
the left side of a membership test. -/
theorem normalize_surrounded (p : Name) (c v x m : Term) (a b : Expression) :
    normalize ('|' :: (p.text ++ "| ".toList ++
        (Expression.conditional c a b).text writtenForm)) =
      scriptForm ('|' :: (p.text ++ "| ".toList ++ c.text scriptForm)) (a.text scriptForm)
        (b.text scriptForm) ∧
    normalize (v.text writtenForm ++ " => ".toList ++
        (Expression.conditional c a b).text writtenForm) =
      scriptForm (v.text scriptForm ++ " => ".toList ++ c.text scriptForm) (a.text scriptForm)
        (b.text scriptForm) ∧
    normalize (x.text writtenForm ++ " in ".toList ++
        (Expression.conditional m a b).text writtenForm) =
      x.text scriptForm ++ " in ".toList ++ (Expression.conditional m a b).text scriptForm := by
  have hclosure := (Lead.parameter p).normalize_conditional c a b
  have harm := (Lead.arm v).normalize_conditional c a b
  have hmember := normalize_member x (.conditional m a b)
  exact ⟨by simpa [Lead.text] using hclosure, by simpa [Lead.text] using harm,
    by simpa using hmember⟩

/-- Neither a closure nor an arm keeps a conditional inside of it, and a membership test is torn
apart by one. -/
theorem boundaries_lost :
    normalize "|p| c ? a : b".toList ≠ "|p| (if c \x7b a \x7d else \x7b b \x7d)".toList ∧
    normalize "v => c ? a : b".toList ≠ "v => (if c \x7b a \x7d else \x7b b \x7d)".toList ∧
    normalize "x in m ? a : b".toList ≠ "(if x in m \x7b a \x7d else \x7b b \x7d)".toList := by
  decide +kernel

end NavigationBar.Template
