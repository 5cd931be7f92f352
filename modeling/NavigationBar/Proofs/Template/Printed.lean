import Mathlib.Data.List.Chain
import NavigationBar.Template.Conditional

/-!
# Texts that are read back as printed

A list of tokens is read back from the text that it covers if each token is whole and no token runs
on into the next: words and blanks are not next to their like, and no slash begins a comment.
-/

namespace NavigationBar.Template

/-- Whether a text that goes on with `c` and then `cs` goes on with a blank or a comment. -/
def BeginsTrivia (c : Char) (cs : List Char) : Prop :=
  Text.isBlank c = true ∨ (c = '/' ∧ (cs.head? = some '/' ∨ cs.head? = some '*'))

/-- Whether a text is all trivia and no comment in it goes on to its end. -/
def IsSkipped (cs : List Char) : Prop :=
  ∀ rest, triviaSpan (cs ++ rest) = (cs ++ (triviaSpan rest).1, (triviaSpan rest).2)

namespace Token

/-- A single space. -/
def space : Token := ⟨.trivia, [' ']⟩

/-- A single character that stands for itself. -/
def ofMark (c : Char) : Token := ⟨.mark c, [c]⟩

/-- A word. -/
def ofWord (w : List Char) : Token := ⟨.word, w⟩

/-- A text in double quotes, with its closing quote. -/
def ofQuoted (inner : List Char) : Token := ⟨.quoted, '"' :: inner⟩

/-- Tokens that are read back when the next one does not run on. -/
inductive IsWhole : Token → Prop where
  /-- Blanks and comments that end. -/
  | trivia {c : Char} {cs : List Char} (hb : BeginsTrivia c cs) (h : IsSkipped (c :: cs)) :
    IsWhole ⟨.trivia, c :: cs⟩
  /-- A quoted text that ends with its closing mark. -/
  | quoted {mark : Char} {inner : List Char} (hm : mark = '"' ∨ mark = '`')
    (h : ∀ rest, quotedSpan mark (inner ++ rest) = (inner, rest)) :
    IsWhole ⟨.quoted, mark :: inner⟩
  /-- A word. -/
  | word {c : Char} {cs : List Char} (h : ∀ d ∈ c :: cs, isWordChar d = true) :
    IsWhole (ofWord (c :: cs))
  /-- A character of no other kind. -/
  | mark {c : Char} (hb : Text.isBlank c = false) (hq : c ≠ '"') (ht : c ≠ '`')
    (hw : isWordChar c = false) : IsWhole (ofMark c)

/-- Whether a token may be followed by another. -/
structure Precedes (t u : Token) : Prop where
  /-- No two words. -/
  word : t.kind = .word → u.kind ≠ .word
  /-- No two blanks. -/
  trivia : t.kind = .trivia → u.kind ≠ .trivia
  /-- No comments. -/
  slash : t.kind = .mark '/' → u.text.head? ≠ some '/' ∧ u.text.head? ≠ some '*'

end Token

open Token

/-- Whether a list of tokens is read back from its text. -/
structure Lexed (ts : List Token) : Prop where
  /-- Each token is whole. -/
  whole : ∀ t ∈ ts, t.IsWhole
  /-- No token runs on into the next. -/
  chain : ts.IsChain Token.Precedes

variable {t u : Token} {ts us : List Token}

theorem triviaSpan_blank {c : Char} (h : Text.isBlank c = true) (cs : List Char) :
    triviaSpan (c :: cs) = (c :: (triviaSpan cs).1, (triviaSpan cs).2) := by
  have hslash : c ≠ '/' := by
    rintro rfl
    exact absurd h (by decide)
  rw [triviaSpan, if_pos h]
  · exact fun _ hc _ => hslash hc
  · exact fun _ hc _ => hslash hc

theorem isSkipped_blank {c : Char} (h : Text.isBlank c = true) : IsSkipped [c] :=
  triviaSpan_blank h

theorem Token.isWhole_space : space.IsWhole :=
  .trivia (.inl (by decide)) (isSkipped_blank (by decide))

theorem lexed_nil : Lexed [] := ⟨nofun, .nil⟩

theorem Lexed.tail (h : Lexed (t :: ts)) : Lexed ts where
  whole u hu := h.whole u (List.mem_cons_of_mem _ hu)
  chain := h.chain.tail

theorem Lexed.cons (ht : t.IsWhole) (h : Lexed ts) (hp : ∀ u ∈ ts.head?, t.Precedes u) :
    Lexed (t :: ts) where
  whole := List.forall_mem_cons.2 ⟨ht, h.whole⟩
  chain := List.isChain_cons.2 ⟨hp, h.chain⟩

theorem lexed_append : Lexed (ts ++ us) ↔
    Lexed ts ∧ Lexed us ∧ ∀ t ∈ ts.getLast?, ∀ u ∈ us.head?, t.Precedes u := by
  constructor
  · intro h
    obtain ⟨h₁, h₂, h₃⟩ := List.isChain_append.1 h.chain
    exact ⟨⟨fun t ht => h.whole t (List.mem_append_left _ ht), h₁⟩,
      ⟨fun t ht => h.whole t (List.mem_append_right _ ht), h₂⟩, h₃⟩
  · rintro ⟨h₁, h₂, h₃⟩
    refine ⟨fun t ht => ?_, List.isChain_append.2 ⟨h₁.chain, h₂.chain, h₃⟩⟩
    rcases List.mem_append.1 ht with ht | ht
    · exact h₁.whole t ht
    · exact h₂.whole t ht

/-- A character with a property is none of some that do not have it. -/
theorem not_mem_of_all {P : Char → Bool} {l : List Char} {c : Char}
    (hall : (l.all fun d => !P d) = true) (h : P c = true) : c ∉ l := fun hc =>
  absurd (List.all_eq_true.1 hall c hc) (by simp [h])

/-- The marks that run neither on nor into one another. -/
def joints : List Char :=
  ['(', ')', '[', ']', '\x7b', '\x7d', '.', ',', ':', '?', '#', '|']

theorem forall_mem_joints : ∀ d ∈ joints, Text.isBlank d = false ∧ d ≠ '"' ∧ d ≠ '`' ∧
    isWordChar d = false ∧ d ≠ '/' ∧ d ≠ '*' := by
  have hall : (joints.all fun d => !Text.isBlank d && d != '"' && d != '`' && !isWordChar d &&
      d != '/' && d != '*') = true := by decide
  simpa [and_assoc] using hall

theorem isWhole_joint {d : Char} (h : d ∈ joints) : (ofMark d).IsWhole := by
  obtain ⟨hb, hq, ht, hw, -, -⟩ := forall_mem_joints d h
  exact .mark hb hq ht hw

theorem Token.mark_precedes {c : Char} (hs : c ≠ '/') (t : Token) : (ofMark c).Precedes t where
  word := nofun
  trivia := nofun
  slash h := absurd (TokenKind.mark.inj h) hs

theorem Token.precedes_joint {d : Char} (h : d ∈ joints) (t : Token) : t.Precedes (ofMark d) where
  word _ := nofun
  trivia _ := nofun
  slash _ := by
    obtain ⟨-, -, -, -, hs, ha⟩ := forall_mem_joints d h
    simpa [ofMark] using ⟨hs, ha⟩

theorem Token.precedes_space {t : Token} (ht : t.kind ≠ .trivia) : t.Precedes space where
  word _ := nofun
  trivia h := absurd h ht
  slash _ := ⟨by decide, by decide⟩

theorem Token.space_precedes {t : Token} (ht : t.kind ≠ .trivia) : space.Precedes t where
  word := nofun
  trivia _ := ht
  slash := nofun

/-- Whether a list of tokens begins and ends with a token that counts. -/
structure IsSolid (ts : List Token) : Prop where
  /-- It does not begin with a blank. -/
  head : ∃ t us, ts = t :: us ∧ t.kind ≠ .trivia
  /-- It does not end in a blank. -/
  last : ∃ us t, ts = us ++ [t] ∧ t.kind ≠ .trivia

theorem IsSolid.of_mem_head? (h : IsSolid ts) : ∀ t ∈ ts.head?, t.kind ≠ .trivia := by
  obtain ⟨t, us, rfl, ht⟩ := h.head
  rintro t ⟨⟩
  exact ht

theorem IsSolid.of_mem_getLast? (h : IsSolid ts) : ∀ t ∈ ts.getLast?, t.kind ≠ .trivia := by
  obtain ⟨us, u, rfl, hu⟩ := h.last
  intro t ht
  rw [List.getLast?_concat, Option.mem_some_iff] at ht
  exact ht ▸ hu

theorem isSolid_singleton (ht : t.kind ≠ .trivia) : IsSolid [t] :=
  ⟨⟨t, [], rfl, ht⟩, ⟨[], t, rfl, ht⟩⟩

theorem IsSolid.append (ht : IsSolid ts) (hu : IsSolid us) (mid : List Token) :
    IsSolid (ts ++ (mid ++ us)) := by
  obtain ⟨t, rest, rfl, hkt⟩ := ht.head
  obtain ⟨rest', u, rfl, hku⟩ := hu.last
  exact ⟨⟨t, _, rfl, hkt⟩, ⟨t :: rest ++ (mid ++ rest'), u, by simp, hku⟩⟩

theorem lexed_singleton (ht : t.IsWhole) : Lexed [t] :=
  lexed_nil.cons ht nofun

theorem Lexed.joint_cons {d : Char} (hd : d ∈ joints) (h : Lexed ts) : Lexed (ofMark d :: ts) := by
  obtain ⟨-, -, -, -, hs, -⟩ := forall_mem_joints d hd
  exact h.cons (isWhole_joint hd) fun t _ => mark_precedes hs t

theorem lexed_joint {d : Char} (hd : d ∈ joints) : Lexed [ofMark d] :=
  lexed_nil.joint_cons hd

theorem Lexed.append_joint {d : Char} (h : Lexed ts) (hd : d ∈ joints) (hu : Lexed us) :
    Lexed (ts ++ ofMark d :: us) := by
  refine lexed_append.2 ⟨h, hu.joint_cons hd, ?_⟩
  rintro t - u ⟨⟩
  exact precedes_joint hd t

/-- Brackets around a list that is read back. -/
theorem Lexed.brackets {o c : Char} (h : Lexed ts) (ho : o ∈ joints) (hc : c ∈ joints) :
    Lexed (ofMark o :: (ts ++ [ofMark c])) :=
  (h.append_joint hc lexed_nil).joint_cons ho

theorem Lexed.space_cons (h : Lexed ts) (ht : ∀ t ∈ ts.head?, t.kind ≠ .trivia) :
    Lexed (space :: ts) :=
  h.cons isWhole_space fun t hmem => space_precedes (ht t hmem)

/-- Two lists that are read back, with a space between them. -/
theorem Lexed.append_space (ht : Lexed ts) (hu : Lexed us) (hst : IsSolid ts) (hsu : IsSolid us) :
    Lexed (ts ++ space :: us) := by
  refine lexed_append.2 ⟨ht, hu.space_cons hsu.of_mem_head?, ?_⟩
  rintro t hmem u ⟨⟩
  exact precedes_space (hst.of_mem_getLast? t hmem)

/-- Lists that are read back, with spaces between them. -/
def spaced : List (List Token) → List Token
  | [] => []
  | [ts] => ts
  | ts :: rest => ts ++ space :: spaced rest

theorem isSolid_spaced {tss : List (List Token)} (h : ∀ ts ∈ tss, IsSolid ts) (hne : tss ≠ []) :
    IsSolid (spaced tss) := by
  fun_induction spaced tss with
  | case1 => exact absurd rfl hne
  | case2 ts => exact h ts List.mem_cons_self
  | case3 ts rest hrest ih =>
    obtain ⟨ht, hr⟩ := List.forall_mem_cons.1 h
    exact ht.append (ih hr hrest) [space]

theorem lexed_spaced {tss : List (List Token)} (hs : ∀ ts ∈ tss, IsSolid ts)
    (h : ∀ ts ∈ tss, Lexed ts) : Lexed (spaced tss) := by
  fun_induction spaced tss with
  | case1 => exact lexed_nil
  | case2 ts => exact h ts List.mem_cons_self
  | case3 ts rest hrest ih =>
    obtain ⟨hst, hsr⟩ := List.forall_mem_cons.1 hs
    obtain ⟨ht, hr⟩ := List.forall_mem_cons.1 h
    exact ht.append_space (ih hsr hr) hst (isSolid_spaced hsr hrest)

/-! ## Reading back -/

@[simp] theorem source_nil : source [] = [] := rfl

@[simp] theorem source_cons (t : Token) (ts : List Token) :
    source (t :: ts) = t.text ++ source ts := rfl

@[simp] theorem source_append (ts us : List Token) :
    source (ts ++ us) = source ts ++ source us :=
  List.flatMap_append

/-- The code points of the blanks. -/
theorem toNat_mem_of_isBlank {c : Char} (h : Text.isBlank c = true) :
    c.toNat ∈ List.range' 0x9 5 ++ List.range' 0x2000 11 ++
      [0x20, 0x85, 0xA0, 0x1680, 0x2028, 0x2029, 0x202F, 0x205F, 0x3000] := by
  simp only [Text.isBlank, Bool.or_eq_true, Bool.and_eq_true, decide_eq_true_eq, beq_iff_eq] at h
  simp only [List.mem_append, List.mem_range'_1, List.mem_cons, List.not_mem_nil, or_false]
  omega

/-- No blank stands in a word. -/
theorem isWordChar_of_isBlank {c : Char} (h : Text.isBlank c = true) : isWordChar c = false := by
  have hall : ∀ n ∈ List.range' 0x9 5 ++ List.range' 0x2000 11 ++
      [0x20, 0x85, 0xA0, 0x1680, 0x2028, 0x2029, 0x202F, 0x205F, 0x3000],
      isWordChar (Char.ofNat n) = false := by decide +kernel
  rw [← Char.ofNat_toNat c]
  exact hall _ (toNat_mem_of_isBlank h)

theorem isBlank_of_isWordChar {c : Char} (h : isWordChar c = true) : Text.isBlank c = false := by
  by_contra hb
  rw [isWordChar_of_isBlank (by simpa using hb)] at h
  exact absurd h nofun

theorem beginsTrivia_append {c : Char} {cs : List Char} (h : BeginsTrivia c cs)
    (rest : List Char) : BeginsTrivia c (cs ++ rest) := by
  refine h.imp_right fun ⟨hslash, hnext⟩ => ⟨hslash, ?_⟩
  cases cs with
  | nil => exact hnext.elim nofun nofun
  | cons d ds => exact hnext

theorem not_beginsTrivia {c : Char} (hb : Text.isBlank c = false) (hs : c ≠ '/') (cs : List Char) :
    ¬ BeginsTrivia c cs := by
  rintro (h | ⟨rfl, -⟩)
  · exact absurd h (by simp [hb])
  · exact hs rfl

theorem not_beginsTrivia_of_isWordChar {c : Char} (h : isWordChar c = true) (cs : List Char) :
    ¬ BeginsTrivia c cs := by
  refine not_beginsTrivia (isBlank_of_isWordChar h) ?_ cs
  rintro rfl
  exact absurd h (by decide)

theorem not_beginsTrivia_of_mark {c : Char} (h : c = '"' ∨ c = '`') (cs : List Char) :
    ¬ BeginsTrivia c cs := by
  rcases h with rfl | rfl <;> exact not_beginsTrivia (by decide) (by decide) cs

/-- Trivia is cut off a text exactly if it begins with some. -/
theorem triviaSpan_eq_nil_iff {c : Char} {cs : List Char} :
    triviaSpan (c :: cs) = ([], c :: cs) ↔ ¬ BeginsTrivia c cs := by
  constructor
  · intro h hbegins
    have hlength := triviaSpan_length_lt hbegins
    rw [h] at hlength
    exact Nat.lt_irrefl _ hlength
  · intro hbegins
    generalize htext : c :: cs = text
    fun_cases triviaSpan text with
    | case1 => cases htext
    | case2 rest =>
      cases htext
      exact absurd (.inr ⟨rfl, .inl rfl⟩) hbegins
    | case3 rest =>
      cases htext
      exact absurd (.inr ⟨rfl, .inr rfl⟩) hbegins
    | case4 d rest h₁ h₂ h =>
      cases htext
      exact absurd (.inl h) hbegins
    | case5 => rfl

theorem wordSpan_append_eq {cs rest : List Char} (h : ∀ c ∈ cs, isWordChar c = true)
    (hrest : ∀ c ∈ rest.head?, isWordChar c = false) : wordSpan (cs ++ rest) = (cs, rest) := by
  unfold wordSpan
  rw [List.takeWhile_append_of_pos h, List.dropWhile_append_of_pos h]
  cases rest with
  | nil => simp
  | cons c rest =>
    have hc := hrest c rfl
    simp [hc]

/-! What a token is can be told from the first characters of it. -/

section Read

variable {c : Char} {cs : List Char}

theorem Token.read_trivia (h : BeginsTrivia c cs) :
    Token.read c cs = (⟨.trivia, (triviaSpan (c :: cs)).1⟩, (triviaSpan (c :: cs)).2) :=
  if_pos h

theorem Token.read_quoted (h : c = '"' ∨ c = '`') :
    Token.read c cs = (⟨.quoted, c :: (quotedSpan c cs).1⟩, (quotedSpan c cs).2) :=
  (if_neg (not_beginsTrivia_of_mark h cs)).trans (if_pos h)

theorem Token.read_word (h : isWordChar c = true) :
    Token.read c cs = (⟨.word, c :: (wordSpan cs).1⟩, (wordSpan cs).2) := by
  have hmark : ¬ (c = '"' ∨ c = '`') := by
    rintro (rfl | rfl) <;> exact absurd h (by decide)
  exact (if_neg (not_beginsTrivia_of_isWordChar h cs)).trans ((if_neg hmark).trans (if_pos h))

theorem Token.read_mark (ht : ¬ BeginsTrivia c cs) (hm : ¬ (c = '"' ∨ c = '`'))
    (hw : isWordChar c = false) : Token.read c cs = (⟨.mark c, [c]⟩, cs) := by
  have hword : ¬ isWordChar c = true := by simp [hw]
  exact (if_neg ht).trans ((if_neg hm).trans (if_neg hword))

theorem Token.read_append (c : Char) (cs : List Char) :
    (Token.read c cs).1.text ++ (Token.read c cs).2 = c :: cs := by
  unfold Token.read
  split
  · exact triviaSpan_append (c :: cs)
  split
  · exact congrArg (c :: ·) (quotedSpan_append c cs)
  split
  · exact congrArg (c :: ·) (wordSpan_append cs)
  · rfl

theorem Token.head?_read (c : Char) (cs : List Char) :
    (Token.read c cs).1.text.head? = some c := by
  have happend := Token.read_append c cs
  have hlength := Token.read_length c cs
  cases htext : (Token.read c cs).1.text with
  | nil =>
    rw [htext, List.nil_append] at happend
    rw [happend] at hlength
    exact absurd hlength (Nat.lt_irrefl _)
  | cons d ds =>
    rw [htext, List.cons_append] at happend
    rw [List.head?_cons, (List.cons.inj happend).1]

theorem tokens_cons (c : Char) (cs : List Char) :
    tokens (c :: cs) = (Token.read c cs).1 :: tokens (Token.read c cs).2 := by
  rw [tokens]

end Read

/-! What the first token of a text tells about the text. -/

section Next

variable {rest : List Char}

theorem triviaSpan_of_next (h : ∀ u ∈ (tokens rest).head?, u.kind ≠ .trivia) :
    triviaSpan rest = ([], rest) := by
  cases rest with
  | nil => unfold triviaSpan; rfl
  | cons c cs =>
    refine triviaSpan_eq_nil_iff.mpr fun hbegins => h (Token.read c cs).1 ?_ ?_
    · rw [tokens_cons]
      rfl
    · rw [Token.read_trivia hbegins]

theorem not_isWordChar_of_next (h : ∀ u ∈ (tokens rest).head?, u.kind ≠ .word) :
    ∀ c ∈ rest.head?, isWordChar c = false := by
  cases rest with
  | nil => exact nofun
  | cons c cs =>
    rintro d ⟨⟩
    by_contra hword
    refine h (Token.read c cs).1 ?_ ?_
    · rw [tokens_cons]
      rfl
    · rw [Token.read_word (by simpa using hword)]

theorem head?_ne_of_next {d : Char} (h : ∀ u ∈ (tokens rest).head?, u.text.head? ≠ some d) :
    rest.head? ≠ some d := by
  cases rest with
  | nil => exact nofun
  | cons c cs =>
    rw [List.head?_cons, ← Token.head?_read c cs]
    refine h _ ?_
    rw [tokens_cons]
    rfl

/-- A token is read back in front of a text that it does not run on into. -/
theorem Token.IsWhole.read (h : t.IsWhole) (hnext : ∀ u ∈ (tokens rest).head?, t.Precedes u) :
    ∃ c cs, t.text ++ rest = c :: cs ∧ Token.read c cs = (t, rest) := by
  cases h with
  | @trivia c cs hb h =>
    have hspan := triviaSpan_of_next fun u hu => (hnext u hu).trivia rfl
    refine ⟨c, cs ++ rest, rfl, ?_⟩
    rw [Token.read_trivia (beginsTrivia_append hb rest), ← List.cons_append, h rest, hspan,
      List.append_nil]
  | @quoted mark inner hm h =>
    refine ⟨mark, inner ++ rest, rfl, ?_⟩
    rw [Token.read_quoted hm, h rest]
  | @word c cs hw =>
    have hspan : wordSpan (cs ++ rest) = (cs, rest) :=
      wordSpan_append_eq (fun d hd => hw d (List.mem_cons_of_mem _ hd))
        (not_isWordChar_of_next fun u hu => (hnext u hu).word rfl)
    refine ⟨c, cs ++ rest, rfl, ?_⟩
    rw [Token.read_word (hw c List.mem_cons_self), hspan]
    rfl
  | @mark c hb hq ht hw =>
    refine ⟨c, rest, rfl, ?_⟩
    refine Token.read_mark ?_ (not_or.mpr ⟨hq, ht⟩) hw
    rintro (hblank | ⟨rfl, hslash | hstar⟩)
    · exact absurd hblank (by simp [hb])
    · exact head?_ne_of_next (fun u hu => ((hnext u hu).slash rfl).1) hslash
    · exact head?_ne_of_next (fun u hu => ((hnext u hu).slash rfl).2) hstar

/-- Whole tokens are read back in front of a text if no token runs on into the next. -/
theorem tokens_source_append (hw : ∀ t ∈ ts, t.IsWhole)
    (hc : (ts ++ tokens rest).IsChain Precedes) :
    tokens (source ts ++ rest) = ts ++ tokens rest := by
  induction ts with
  | nil => rfl
  | cons t ts ih =>
    obtain ⟨ht, hts⟩ := List.forall_mem_cons.1 hw
    rw [List.cons_append, List.isChain_cons] at hc
    obtain ⟨hnext, hchain⟩ := hc
    have hrest := ih hts hchain
    rw [← hrest] at hnext
    obtain ⟨c, cs, hcs, hread⟩ := ht.read hnext
    rw [source_cons, List.append_assoc, hcs, tokens_cons, hread, hrest, List.cons_append]

end Next

/-- A list of tokens is read back from its text. -/
theorem Lexed.tokens_source (h : Lexed ts) : tokens (source ts) = ts := by
  have hnil : tokens [] = [] := by rw [tokens]
  have hchain : (ts ++ tokens []).IsChain Precedes := by
    rw [hnil, List.append_nil]
    exact h.chain
  have hread := tokens_source_append h.whole hchain
  rwa [hnil, List.append_nil, List.append_nil] at hread

end NavigationBar.Template
