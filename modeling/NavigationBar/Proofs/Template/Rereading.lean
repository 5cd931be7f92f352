import Mathlib.Data.List.TakeWhile
import NavigationBar.Proofs.Template.Printed

/-!
# The tokens of a text, read again

No token of a text runs on into the next, and each but the last is whole. Tokens of one text are
therefore read back from another one that they are put together into, unless a quoted text that is
never closed comes to stand before something else.
-/

namespace NavigationBar.Template

open Token

/-! ## Spans that end before the text does -/

theorem quotedSpan_plain {mark c : Char} (hescape : c ≠ '\\') (hmark : c ≠ mark) (cs : List Char) :
    quotedSpan mark (c :: cs) = (c :: (quotedSpan mark cs).1, (quotedSpan mark cs).2) := by
  rw [quotedSpan, if_neg hmark]
  · exact fun hc _ => hescape hc
  · exact fun _ _ hc _ => hescape hc

theorem quotedSpan_of_left {mark : Char} {cs : List Char} (h : (quotedSpan mark cs).2 ≠ [])
    (rest : List Char) :
    quotedSpan mark ((quotedSpan mark cs).1 ++ rest) = ((quotedSpan mark cs).1, rest) := by
  fun_induction quotedSpan mark cs with
  | case1 => exact absurd rfl h
  | case2 => exact absurd rfl h
  | case3 c cs text left hspan ih =>
    rw [hspan] at ih
    rw [List.cons_append, List.cons_append, quotedSpan, ih h]
  | case4 cs hlone hescape =>
    have hmark : mark ≠ '\\' := by
      rintro rfl
      cases cs with
      | nil => exact hlone rfl rfl
      | cons d ds => exact hescape d ds rfl rfl
    rw [List.singleton_append, quotedSpan, if_pos rfl]
    · exact fun hc _ => hmark hc
    · exact fun _ _ hc _ => hmark hc
  | case5 c cs hlone hescape hne text left hspan ih =>
    have hc : c ≠ '\\' := by
      rintro rfl
      cases cs with
      | nil => exact hlone rfl rfl
      | cons d ds => exact hescape d ds rfl rfl
    rw [hspan] at ih
    rw [List.cons_append, quotedSpan_plain hc hne, ih h]

theorem head?_blockSpan (cs : List Char) : (blockSpan cs).1.head? = cs.head? := by
  fun_cases blockSpan cs <;> rfl

theorem blockSpan_of_left {cs : List Char} (h : (blockSpan cs).2 ≠ []) (rest : List Char) :
    blockSpan ((blockSpan cs).1 ++ rest) = ((blockSpan cs).1, rest) := by
  fun_induction blockSpan cs with
  | case1 => exact absurd rfl h
  | case2 cs => rw [List.cons_append, List.singleton_append, blockSpan]
  | case3 c cs hclose text left hspan ih =>
    have hhead := head?_blockSpan cs
    rw [hspan] at ih hhead
    rw [List.cons_append, blockSpan, ih h]
    rintro ds rfl hslash
    -- The slash would have to be the next character of the text that was cut.
    cases htext : text with
    | nil =>
      rw [htext, List.head?_nil, eq_comm, List.head?_eq_none_iff] at hhead
      subst hhead
      exact h (congrArg Prod.snd hspan).symm
    | cons d ds' =>
      rw [htext, List.cons_append] at hslash
      obtain ⟨rfl, -⟩ := List.cons.inj hslash
      rw [htext] at hhead
      obtain ⟨es, hes⟩ := List.head?_eq_some_iff.mp hhead.symm
      exact hclose es rfl hes

theorem lineSpan_of_left {cs : List Char} (h : (lineSpan cs).2 ≠ []) :
    ∃ left, (lineSpan cs).2 = '\n' :: left ∧
      ∀ rest, lineSpan ((lineSpan cs).1 ++ '\n' :: rest) = ((lineSpan cs).1, '\n' :: rest) := by
  have hline : ∀ c ∈ (lineSpan cs).1, (c != '\n') = true := by
    intro c hc
    exact List.mem_takeWhile_imp (p := (· != '\n')) hc
  have hbreak : (lineSpan cs).2.head h = '\n' :=
    bne_eq_false_iff_eq.mp (List.head_dropWhile_not (· != '\n') h)
  refine ⟨(lineSpan cs).2.tail, ?_, fun rest => ?_⟩
  · rw [← hbreak, List.cons_head_tail]
  · rw [lineSpan.eq_def ((lineSpan cs).1 ++ _), List.takeWhile_append_of_pos hline,
      List.dropWhile_append_of_pos hline]
    simp

theorem triviaSpan_line (cs : List Char) :
    triviaSpan ('/' :: '/' :: cs) =
      ('/' :: '/' :: (lineSpan cs).1 ++ (triviaSpan (lineSpan cs).2).1,
        (triviaSpan (lineSpan cs).2).2) := by
  rw [triviaSpan]

theorem triviaSpan_block (cs : List Char) :
    triviaSpan ('/' :: '*' :: cs) =
      ('/' :: '*' :: (blockSpan cs).1 ++ (triviaSpan (blockSpan cs).2).1,
        (triviaSpan (blockSpan cs).2).2) := by
  rw [triviaSpan]

/-- No trivia is left where trivia was cut off. -/
theorem triviaSpan_left (cs : List Char) :
    triviaSpan (triviaSpan cs).2 = ([], (triviaSpan cs).2) := by
  fun_induction triviaSpan cs with
  | case1 => simp [triviaSpan]
  | case2 rest cut text left h ih => simpa [h] using ih
  | case3 rest cut text left h ih => simpa [h] using ih
  | case4 c rest _ _ hb text left h ih => simpa [h] using ih
  | case5 c rest h₁ h₂ hb => rw [triviaSpan, if_neg hb] <;> assumption

theorem ne_nil_of_triviaSpan_left {cs : List Char} (h : (triviaSpan cs).2 ≠ []) : cs ≠ [] := by
  rintro rfl
  exact h (by rw [triviaSpan])

/-- Trivia that something follows ends by itself. -/
theorem isSkipped_of_left {cs : List Char} (h : (triviaSpan cs).2 ≠ []) :
    IsSkipped (triviaSpan cs).1 := by
  intro rest
  fun_induction triviaSpan cs with
  | case1 => exact absurd rfl h
  | case2 cs cut text left hspan ih =>
    rw [hspan] at ih
    have hleft : cut.2 ≠ [] := ne_nil_of_triviaSpan_left (by rwa [hspan])
    obtain ⟨after, hcut, hline⟩ := lineSpan_of_left hleft
    have hbreak := triviaSpan_blank (c := '\n') (by decide) after
    rw [hcut, hbreak] at hspan
    obtain ⟨rfl, rfl⟩ := Prod.mk.inj hspan
    show triviaSpan ('/' :: '/' :: (cut.1 ++ '\n' :: (triviaSpan after).1 ++ rest)) = _
    rw [List.append_assoc, List.cons_append, triviaSpan_line, hline]
    refine (congrArg (fun p => ('/' :: '/' :: cut.1 ++ p.1, p.2)) (ih h)).trans ?_
    simp
  | case3 cs cut text left hspan ih =>
    rw [hspan] at ih
    have hleft : cut.2 ≠ [] := ne_nil_of_triviaSpan_left (by rwa [hspan])
    have hblock := blockSpan_of_left hleft (text ++ rest)
    show triviaSpan ('/' :: '*' :: (cut.1 ++ text ++ rest)) = _
    rw [List.append_assoc, triviaSpan_block, hblock]
    refine (congrArg (fun p => ('/' :: '*' :: cut.1 ++ p.1, p.2)) (ih h)).trans ?_
    simp
  | case4 c cs _ _ hb text left hspan ih =>
    rw [hspan] at ih
    rw [List.cons_append, triviaSpan_blank hb, ih h]
    rfl
  | case5 => rfl

/-! ## Whole tokens -/

namespace Token

/-- Whether a token is no quoted text without its closing mark: a space after it would not belong
to it. -/
def isClosed (t : Token) : Bool :=
  match t.kind, t.text with
  | .quoted, mark :: inner => quotedSpan mark (inner ++ [' ']) == (inner, [' '])
  | _, _ => true

variable {c : Char} {cs : List Char}

theorem exists_triviaSpan (h : BeginsTrivia c cs) :
    ∃ ds, (triviaSpan (c :: cs)).1 = c :: ds ∧ BeginsTrivia c ds := by
  rcases h with hblank | ⟨rfl, hslash | hstar⟩
  · rw [triviaSpan_blank hblank]
    exact ⟨_, rfl, .inl hblank⟩
  · obtain ⟨ds, rfl⟩ := List.head?_eq_some_iff.mp hslash
    rw [triviaSpan_line]
    exact ⟨_, rfl, .inr ⟨rfl, .inl rfl⟩⟩
  · obtain ⟨ds, rfl⟩ := List.head?_eq_some_iff.mp hstar
    rw [triviaSpan_block]
    exact ⟨_, rfl, .inr ⟨rfl, .inr rfl⟩⟩

/-- The first token of a text is whole if there is something after it, or if it counts and is
closed. -/
theorem isWhole_read (h : (Token.read c cs).2 ≠ [] ∨
    (Token.read c cs).1.kind ≠ .trivia ∧ (Token.read c cs).1.isClosed = true) :
    (Token.read c cs).1.IsWhole := by
  by_cases ht : BeginsTrivia c cs
  · rw [read_trivia ht] at h ⊢
    have hleft : (triviaSpan (c :: cs)).2 ≠ [] := h.resolve_right fun hk => hk.1 rfl
    obtain ⟨ds, hds, hbegins⟩ := exists_triviaSpan ht
    rw [hds]
    refine .trivia hbegins ?_
    rw [← hds]
    exact isSkipped_of_left hleft
  by_cases hm : c = '"' ∨ c = '`'
  · rw [read_quoted hm] at h ⊢
    refine .quoted hm ?_
    rcases h with hleft | ⟨-, hclosed⟩
    · exact quotedSpan_of_left hleft
    · have hspan : quotedSpan c ((quotedSpan c cs).1 ++ [' ']) = ((quotedSpan c cs).1, [' ']) := by
        simpa only [isClosed, beq_iff_eq] using hclosed
      have hleft : (quotedSpan c ((quotedSpan c cs).1 ++ [' '])).2 ≠ [] := by
        rw [hspan]
        exact nofun
      have hrest := quotedSpan_of_left hleft
      rwa [hspan] at hrest
  by_cases hw : isWordChar c = true
  · rw [read_word hw]
    exact .word (List.forall_mem_cons.mpr ⟨hw, fun d => List.mem_takeWhile_imp⟩)
  · obtain ⟨hq, hb⟩ := not_or.mp hm
    rw [read_mark ht hm (by simpa using hw)]
    exact .mark (by simpa using fun hblank => ht (.inl hblank)) hq hb (by simpa using hw)

theorem beginsTrivia_of_kind (h : (Token.read c cs).1.kind = .trivia) : BeginsTrivia c cs := by
  by_contra ht
  by_cases hm : c = '"' ∨ c = '`'
  · rw [read_quoted hm] at h
    cases h
  by_cases hw : isWordChar c = true
  · rw [read_word hw] at h
    cases h
  · rw [read_mark ht hm (by simpa using hw)] at h
    cases h

theorem isWordChar_of_kind (h : (Token.read c cs).1.kind = .word) : isWordChar c = true := by
  by_contra hw
  by_cases ht : BeginsTrivia c cs
  · rw [read_trivia ht] at h
    cases h
  by_cases hm : c = '"' ∨ c = '`'
  · rw [read_quoted hm] at h
    cases h
  · rw [read_mark ht hm (by simpa using hw)] at h
    cases h

/-- The first token of a text does not run on into what was left. -/
theorem precedes_read {d : Char} {ds : List Char} (hleft : (Token.read c cs).2 = d :: ds) :
    (Token.read c cs).1.Precedes (Token.read d ds).1 := by
  by_cases ht : BeginsTrivia c cs
  · rw [read_trivia ht] at hleft ⊢
    refine ⟨nofun, fun _ hkind => ?_, nofun⟩
    have hnone := triviaSpan_left (c :: cs)
    rw [hleft] at hnone
    exact triviaSpan_eq_nil_iff.mp hnone (beginsTrivia_of_kind hkind)
  by_cases hm : c = '"' ∨ c = '`'
  · rw [read_quoted hm]
    exact ⟨nofun, nofun, nofun⟩
  by_cases hw : isWordChar c = true
  · rw [read_word hw] at hleft ⊢
    refine ⟨fun _ hkind => ?_, nofun, nofun⟩
    have hdrop : cs.dropWhile isWordChar = d :: ds := hleft
    have hnot := List.head?_dropWhile_not isWordChar cs
    rw [hdrop] at hnot
    exact absurd (isWordChar_of_kind hkind) (by simpa using hnot)
  · rw [read_mark ht hm (by simpa using hw)] at hleft ⊢
    refine ⟨nofun, nofun, fun hkind => ?_⟩
    obtain rfl : c = '/' := TokenKind.mark.inj hkind
    obtain rfl : cs = d :: ds := hleft
    rw [head?_read]
    exact not_or.mp fun hcomment => ht (.inr ⟨rfl, hcomment⟩)

end Token

variable {cs : List Char} {ts us : List Token}

@[simp] theorem tokens_nil : tokens [] = [] := by
  rw [tokens]

theorem tokens_mark {c : Char} (hb : Text.isBlank c = false) (hs : c ≠ '/')
    (hm : ¬ (c = '"' ∨ c = '`')) (hw : isWordChar c = false) (cs : List Char) :
    tokens (c :: cs) = ofMark c :: tokens cs := by
  rw [tokens_cons, Token.read_mark (not_beginsTrivia hb hs cs) hm hw]
  rfl

theorem source_tokens (cs : List Char) : source (tokens cs) = cs := by
  fun_induction tokens cs with
  | case1 => rfl
  | case2 c cs ih => rw [source_cons, ih, Token.read_append]

/-- No token of a text runs on into the next. -/
theorem isChain_tokens (cs : List Char) : (tokens cs).IsChain Precedes := by
  fun_induction tokens cs with
  | case1 => exact .nil
  | case2 c cs ih =>
    refine List.isChain_cons.mpr ⟨fun u hu => ?_, ih⟩
    cases hleft : (Token.read c cs).2 with
    | nil =>
      rw [hleft, tokens_nil] at hu
      cases hu
    | cons d ds =>
      rw [hleft, tokens_cons, List.head?_cons] at hu
      cases hu
      exact Token.precedes_read hleft

/-- What follows some tokens of a text is read as it was. -/
theorem tokens_source_of_append (h : tokens cs = ts ++ us) : tokens (source us) = us := by
  induction ts generalizing cs with
  | nil => 
    rw [List.nil_append] at h
    rw [← h, source_tokens]
  | cons t ts ih =>
    cases cs with
    | nil => simp at h
    | cons c cs =>
      rw [tokens_cons, List.cons_append] at h
      exact ih (List.cons.inj h).2

/-- Tokens of a text are whole if there are others after them. -/
theorem isWhole_of_append (h : tokens cs = ts ++ us) (hus : us ≠ []) : ∀ t ∈ ts, t.IsWhole := by
  induction ts generalizing cs with
  | nil => exact nofun
  | cons t ts ih =>
    cases cs with
    | nil => simp at h
    | cons c cs =>
      rw [tokens_cons, List.cons_append] at h
      obtain ⟨rfl, hrest⟩ := List.cons.inj h
      refine List.forall_mem_cons.mpr ⟨Token.isWhole_read (.inl ?_), ih hrest⟩
      intro hnil
      rw [hnil, tokens_nil] at hrest
      exact hus (List.append_eq_nil_iff.mp hrest.symm).2

/-- Whether every quoted text in a text is closed. -/
def QuotesClosed (cs : List Char) : Prop :=
  ∀ t ∈ tokens cs, t.isClosed = true

instance (cs : List Char) : Decidable (QuotesClosed cs) :=
  inferInstanceAs (Decidable (∀ t ∈ tokens cs, t.isClosed = true))

/-- A token that counts is whole in any such text. -/
theorem QuotesClosed.isWhole (h : QuotesClosed cs) {t : Token} (ht : t ∈ tokens cs)
    (hk : t.kind ≠ .trivia) : t.IsWhole := by
  have hclosed := h t ht
  clear h
  fun_induction tokens cs with
  | case1 => exact absurd ht nofun
  | case2 c cs ih =>
    rcases List.mem_cons.mp ht with rfl | ht
    · exact Token.isWhole_read (.inr ⟨hk, hclosed⟩)
    · exact ih ht

end NavigationBar.Template
