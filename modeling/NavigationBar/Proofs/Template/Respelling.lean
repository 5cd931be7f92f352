import Mathlib.Data.List.Basic
import NavigationBar.Proofs.Template.Pieces

/-!
# The tokens of a respelled body

The two passes read a text in different ways: the respelling cuts it into pieces, the rewriting of
conditionals into tokens. They agree on where quoted texts and comments end. So what has been
written up to a closing brace is read as it stands there, whatever is written after it.
-/

namespace NavigationBar.Template

open Token Piece

/-! ## Texts that end with a token -/

/-- Whether no token of a text is cut short by the end of it. -/
def IsFinished (cs : List Char) : Prop :=
  ∀ t ∈ tokens cs, t.IsWhole

variable {cs ds : List Char} {t u : Token} {ts us : List Token}

theorem isFinished_nil : IsFinished [] := by
  rw [IsFinished, tokens_nil]
  exact List.forall_mem_nil _

theorem isSkipped_nil : IsSkipped [] := fun _ => rfl

theorem IsSkipped.append (hc : IsSkipped cs) (hd : IsSkipped ds) : IsSkipped (cs ++ ds) := by
  intro rest
  rw [List.append_assoc, hc, hd, List.append_assoc]

theorem IsFinished.lexed (h : IsFinished cs) : Lexed (tokens cs) :=
  ⟨h, isChain_tokens cs⟩

theorem Lexed.isFinished (h : Lexed ts) : IsFinished (source ts) := by
  rw [IsFinished, h.tokens_source]
  exact h.whole

theorem tokens_append (h : IsFinished cs)
    (hnext : ∀ t ∈ (tokens cs).getLast?, ∀ u ∈ (tokens ds).head?, t.Precedes u) :
    tokens (cs ++ ds) = tokens cs ++ tokens ds := by
  have hchain := List.isChain_append.2 ⟨isChain_tokens cs, isChain_tokens ds, hnext⟩
  have hread := tokens_source_append h hchain
  rwa [source_tokens] at hread

theorem Token.IsWhole.text_ne_nil (h : t.IsWhole) : t.text ≠ [] := by
  cases h <;> exact List.cons_ne_nil _ _

theorem Token.IsWhole.tokens_text (h : t.IsWhole) : tokens t.text = [t] := by
  have hread := (lexed_singleton h).tokens_source
  rwa [source_cons, source_nil, List.append_nil] at hread

theorem Token.IsWhole.isFinished (h : t.IsWhole) : IsFinished t.text := by
  rw [IsFinished, h.tokens_text]
  exact List.forall_mem_singleton.mpr h

theorem IsSkipped.isWhole (h : IsSkipped cs) (hne : cs ≠ []) : IsWhole ⟨.trivia, cs⟩ := by
  cases cs with
  | nil => exact absurd rfl hne
  | cons c cs =>
    refine .trivia ?_ h
    by_contra hno
    have hnil : triviaSpan [] = ([], []) := by simp [triviaSpan]
    have hall := h []
    rw [List.append_nil, hnil, List.append_nil, triviaSpan_eq_nil_iff.mpr hno] at hall
    cases hall

/-- The first token of a text begins as the text does. -/
theorem head?_of_mem_head? (h : u ∈ (tokens ds).head?) : u.text.head? = ds.head? := by
  cases ds with
  | nil => simp at h
  | cons d ds =>
    rw [tokens_cons, List.head?_cons] at h
    cases h
    exact head?_read d ds

/-- A mark at the end of a text is the last character of it. -/
theorem IsFinished.getLast?_of_mark (h : IsFinished cs) {c : Char} (ht : t ∈ (tokens cs).getLast?)
    (hk : t.kind = .mark c) : cs.getLast? = some c := by
  obtain ⟨ts, hts⟩ := List.getLast?_eq_some_iff.mp ht
  have hwhole := h t (List.mem_of_getLast? ht)
  have htext : t.text = [c] := by
    cases hwhole with
    | mark => rw [TokenKind.mark.inj hk]; rfl
    | trivia | quoted | word => cases hk
  rw [← source_tokens cs, hts, source_append, source_cons, source_nil, htext]
  simp

/-- Two words in a row are one, and so is trivia. -/
theorem Token.IsWhole.join (ht : t.IsWhole) (hu : u.IsWhole) (hk : t.kind = u.kind)
    (hjoin : t.kind = .word ∨ t.kind = .trivia) : IsWhole ⟨t.kind, t.text ++ u.text⟩ := by
  cases ht with
  | trivia hb h =>
    cases hu with
    | trivia hb' h' => exact .trivia (beginsTrivia_append hb _) (h.append h')
    | quoted | word | mark => cases hk
  | word h =>
    cases hu with
    | word h' => exact .word (List.forall_mem_append.mpr ⟨h, h'⟩)
    | trivia | quoted | mark => cases hk
  | quoted | mark => rcases hjoin with h | h <;> cases h

/-- A token that grows at its end follows what it followed. -/
theorem Token.Precedes.join (h : t.Precedes u) (hu : u.IsWhole) (more : List Char) :
    t.Precedes ⟨u.kind, u.text ++ more⟩ := by
  refine ⟨h.word, h.trivia, fun hs => ?_⟩
  rw [List.head?_append_of_ne_nil _ hu.text_ne_nil]
  exact h.slash hs

/-- The last token of one text and the first of another one can become one token. -/
theorem Lexed.join (hts : Lexed (ts ++ [t])) (hus : Lexed (u :: us)) (hk : t.kind = u.kind)
    (hjoin : t.kind = .word ∨ t.kind = .trivia) :
    Lexed (ts ++ ⟨t.kind, t.text ++ u.text⟩ :: us) := by
  obtain ⟨hts, ht, hnext⟩ := lexed_append.1 hts
  have htw := ht.whole t List.mem_cons_self
  have huw := hus.whole u List.mem_cons_self
  have hjoined : Lexed (⟨t.kind, t.text ++ u.text⟩ :: us) := by
    refine hus.tail.cons (htw.join huw hk hjoin) fun v hv => ?_
    have hprecedes := (List.isChain_cons.1 hus.chain).1 v hv
    refine ⟨fun h => hprecedes.word (hk ▸ h), fun h => hprecedes.trivia (hk ▸ h), fun h => ?_⟩
    rw [show t.kind = .mark '/' from h] at hjoin
    exact hjoin.elim (fun h => TokenKind.noConfusion h) fun h => TokenKind.noConfusion h
  refine lexed_append.2 ⟨hts, hjoined, fun v hv w hw => ?_⟩
  rw [List.head?_cons, Option.mem_some_iff] at hw
  rw [← hw]
  exact (hnext v hv t rfl).join htw _

/-- Texts can be put one after the other if no comment begins where they meet. -/
theorem IsFinished.append (hc : IsFinished cs) (hd : IsFinished ds)
    (hslash : ∀ t ∈ (tokens cs).getLast?, t.kind = .mark '/' →
      ds.head? ≠ some '/' ∧ ds.head? ≠ some '*') : IsFinished (cs ++ ds) := by
  by_cases hnext : ∀ t ∈ (tokens cs).getLast?, ∀ u ∈ (tokens ds).head?, t.Precedes u
  · rw [IsFinished, tokens_append hc hnext, List.forall_mem_append]
    exact ⟨hc, hd⟩
  · -- The last token of the one and the first of the other become one.
    push Not at hnext
    obtain ⟨t, ht, u, hu, hnot⟩ := hnext
    have hkinds : t.kind = u.kind ∧ (t.kind = .word ∨ t.kind = .trivia) := by
      by_contra hno
      refine hnot ⟨fun hw hw' => hno ⟨hw.trans hw'.symm, .inl hw⟩,
        fun hb hb' => hno ⟨hb.trans hb'.symm, .inr hb⟩, fun hs => ?_⟩
      rw [head?_of_mem_head? hu]
      exact hslash t ht hs
    obtain ⟨ts, hts⟩ := List.getLast?_eq_some_iff.mp ht
    obtain ⟨us, hus⟩ := List.head?_eq_some_iff.mp hu
    have hlexed := Lexed.join (hts ▸ hc.lexed) (hus ▸ hd.lexed) hkinds.1 hkinds.2
    have hsource : source (ts ++ ⟨t.kind, t.text ++ u.text⟩ :: us) = cs ++ ds := by
      rw [← source_tokens cs, ← source_tokens ds, hts, hus]
      simp
    rw [← hsource]
    exact hlexed.isFinished

theorem isSkipped_line {text : List Char} (h : '\n' ∉ text) :
    IsSkipped ('/' :: '/' :: (text ++ ['\n'])) := by
  intro rest
  have hblank := triviaSpan_blank (c := '\n') (by decide) rest
  have hcons : '/' :: '/' :: (text ++ ['\n']) ++ rest = '/' :: '/' :: (text ++ '\n' :: rest) := by
    simp
  rw [hcons, triviaSpan_line, lineSpan_of_not_mem h, hblank]
  simp

theorem isSkipped_block {text : List Char} (h : ∀ rest, blockSpan (text ++ rest) = (text, rest)) :
    IsSkipped ('/' :: '*' :: text) := by
  intro rest
  rw [List.cons_append, List.cons_append, triviaSpan_block, h]

/-! ## Texts that are written -/

/-- A quoted text that something follows ends in its mark. -/
theorem getLast?_quotedSpan {mark : Char} (h : (quotedSpan mark cs).2 ≠ []) :
    (quotedSpan mark cs).1.getLast? = some mark := by
  fun_induction quotedSpan mark cs with
  | case1 => exact absurd rfl h
  | case2 => exact absurd rfl h
  | case3 c cs text left hspan ih =>
    rw [hspan] at ih
    exact List.mem_getLast?_cons (List.mem_getLast?_cons (ih h))
  | case4 cs => rfl
  | case5 c cs hlone hescape hne text left hspan ih =>
    rw [hspan] at ih
    exact List.mem_getLast?_cons (ih h)

/-- A text in single quotes that something follows is closed in double quotes. -/
theorem quotedSpan_requote (h : (requote cs).2 ≠ []) (rest : List Char) :
    quotedSpan '"' ((requote cs).1 ++ '"' :: rest) = ((requote cs).1 ++ ['"'], rest) := by
  fun_induction requote cs with
  | case1 => exact absurd rfl h
  | case2 => exact absurd rfl h
  | case3 cs text left hspan ih =>
    rw [hspan] at ih
    rw [List.cons_append, quotedSpan_plain (by decide) (by decide), ih h]
    rfl
  | case4 c cs hc text left hspan ih =>
    rw [hspan] at ih
    rw [List.cons_append, List.cons_append, quotedSpan, ih h]
    rfl
  | case5 cs text left hspan ih =>
    rw [hspan] at ih
    rw [List.cons_append, List.cons_append, quotedSpan, ih h]
    rfl
  | case6 cs => rfl
  | case7 c cs h₁ h₂ h₃ h₄ h₅ text left hspan ih =>
    have hc : c ≠ '\\' := by
      rintro rfl
      cases cs with
      | nil => exact h₁ rfl rfl
      | cons d ds => exact h₃ d ds rfl rfl
    rw [hspan] at ih
    rw [List.cons_append, quotedSpan_plain hc h₄, ih h]
    rfl

theorem isFinished_semicolon : IsFinished [';'] := by
  have hmark : (ofMark ';').IsWhole := .mark (by decide) (by decide) (by decide) (by decide)
  exact hmark.isFinished

/-- A single character that is neither blank nor a mark of quoted texts. -/
theorem isFinished_singleton {c : Char} (hb : Text.isBlank c = false) (hq : c ≠ '"')
    (ht : c ≠ '`') : IsFinished [c] := by
  by_cases hw : isWordChar c = true
  · exact (IsWhole.word (List.forall_mem_singleton.mpr hw)).isFinished
  · exact (IsWhole.mark hb hq ht (by simpa using hw)).isFinished

theorem isFinished_operator {c : Char} (hc : c = '=' ∨ c = '!') : IsFinished [c, '='] := by
  have hequals : (ofMark '=').IsWhole := .mark (by decide) (by decide) (by decide) (by decide)
  have hbang : (ofMark '!').IsWhole := .mark (by decide) (by decide) (by decide) (by decide)
  have hlexed : ∀ d, d ≠ '/' → (ofMark d).IsWhole → Lexed [ofMark d, ofMark '='] :=
    fun d hd hwhole => (lexed_singleton hequals).cons hwhole fun t _ => mark_precedes hd t
  rcases hc with rfl | rfl
  · exact (hlexed '=' (by decide) hequals).isFinished
  · exact (hlexed '!' (by decide) hbang).isFinished

/-- What can be written where a word is read: it is finished, it begins with no blank, and no
comment begins around it. -/
structure IsSpelling (text : List Char) : Prop where
  finished : IsFinished text
  ne_nil : text ≠ []
  blank : ∀ d ∈ text.head?, Text.isBlank d = false
  head : text.head? ≠ some '/' ∧ text.head? ≠ some '*'
  last : text.getLast? ≠ some '/'

theorem isSpelling_word {c : Char} {w : List Char} (h : ∀ d ∈ c :: w, isWordChar d = true) :
    IsSpelling (c :: w) := by
  have hslash : isWordChar '/' = false ∧ isWordChar '*' = false := by decide
  have hne : ∀ {d : Char}, isWordChar d = false → d ∉ c :: w := fun hd hmem => by
    rw [h _ hmem] at hd
    cases hd
  refine ⟨(IsWhole.word h).isFinished, List.cons_ne_nil _ _, fun d hd => ?_,
    ⟨fun hhead => ?_, fun hhead => ?_⟩, fun hlast => ?_⟩
  · exact isBlank_of_isWordChar (h d (List.mem_of_head? hd))
  · exact hne hslash.1 (List.mem_of_head? hhead)
  · exact hne hslash.2 (List.mem_of_head? hhead)
  · exact hne hslash.1 (List.mem_of_getLast? hlast)

theorem isSpelling_scriptWord {c : Char} {w : List Char} (h : ∀ d ∈ c :: w, isWordChar d = true) :
    IsSpelling (Spelled.scriptWord (c :: w)) := by
  unfold Spelled.scriptWord
  split
  · have hlexed : Lexed [ofMark '(', ofMark ')'] := (lexed_joint (by decide)).joint_cons (by decide)
    refine ⟨hlexed.isFinished, List.cons_ne_nil _ _, fun d hd => ?_, by decide, by decide⟩
    rw [← Option.some.inj hd]
    decide
  split
  · exact isSpelling_word (List.all_eq_true.1 (by decide))
  · exact isSpelling_word h

/-! ## Respellings under way -/

namespace Spelled

/-- Whether what a respelling has written so far ends with a token, if `next` is what it goes on to
read. A comment may wait for the line break that ends it. -/
structure Fits (s : Spelled) (next : List Char) : Prop where
  /-- No significant text is cut short. -/
  settled : IsFinished s.settled.reverse
  /-- What follows it are blanks and comments. -/
  loose : IsSkipped s.loose.reverse ∨
    next.head? = some '\n' ∧ IsSkipped (s.loose.reverse ++ ['\n'])
  /-- No slash begins a comment with what follows it. -/
  slash : s.settled.head? = some '/' →
    (s.loose.reverse ++ next).head? ≠ some '/' ∧ (s.loose.reverse ++ next).head? ≠ some '*'

variable {s : Spelled} {next left : List Char}

theorem Fits.isSkipped (h : s.Fits next) (hnext : next.head? ≠ some '\n') :
    IsSkipped s.loose.reverse :=
  h.loose.resolve_right fun hbreak => hnext hbreak.1

/-- What has been written ends with a token where another text can be put after it. -/
theorem Fits.isFinished_append (h : s.Fits next) (hnext : next.head? ≠ some '\n')
    {text : List Char} (htext : IsFinished text)
    (hhead : text.head? = next.head? ∨ text.head? ≠ some '/' ∧ text.head? ≠ some '*') :
    IsFinished (s.settled.reverse ++ (s.loose.reverse ++ text)) := by
  have hskip := h.isSkipped hnext
  have hlast : ∀ t ∈ (tokens s.settled.reverse).getLast?, t.kind = .mark '/' →
      s.settled.head? = some '/' := by
    intro t ht hk
    have hlast := h.settled.getLast?_of_mark ht hk
    rwa [List.getLast?_reverse] at hlast
  by_cases hnil : s.loose.reverse = []
  · rw [hnil, List.nil_append]
    refine h.settled.append htext fun t ht hk => ?_
    have hslash := h.slash (hlast t ht hk)
    rw [hnil, List.nil_append] at hslash
    exact hhead.elim (fun hsame => hsame ▸ hslash) id
  · have hwhole := hskip.isWhole hnil
    refine h.settled.append (hwhole.isFinished.append htext fun t ht hk => ?_) fun t ht hk => ?_
    · rw [hwhole.tokens_text, List.getLast?_singleton, Option.mem_some_iff] at ht
      rw [← ht] at hk
      cases hk
    · have hslash := h.slash (hlast t ht hk)
      rw [List.head?_append_of_ne_nil _ hnil] at hslash
      rwa [List.head?_append_of_ne_nil _ hnil]

theorem Fits.settle (h : s.Fits next) (hnext : next.head? ≠ some '\n') {text : List Char}
    (htext : IsFinished text) (hne : text ≠ [])
    (hhead : text.head? = next.head? ∨ text.head? ≠ some '/' ∧ text.head? ≠ some '*')
    (hlast : text.getLast? = some '/' → left.head? ≠ some '/' ∧ left.head? ≠ some '*')
    (last : Char) : (s.settle text last).Fits left where
  settled := by
    have hfinished := h.isFinished_append hnext htext hhead
    simpa [Spelled.settle] using hfinished
  loose := .inl isSkipped_nil
  slash hslash := by
    refine hlast ?_
    rwa [Spelled.settle, List.head?_append_of_ne_nil _ (by simpa using hne),
      List.head?_reverse] at hslash

theorem Fits.loosen {text : List Char} (h : s.Fits (text ++ left))
    (htext : IsSkipped (s.loose.reverse ++ text) ∨
      left.head? = some '\n' ∧ IsSkipped (s.loose.reverse ++ text ++ ['\n'])) :
    (s.loosen text).Fits left where
  settled := h.settled
  loose := by simpa [Spelled.loosen] using htext
  slash hslash := by simpa [Spelled.loosen] using h.slash hslash

theorem Fits.endStatement (h : s.Fits next) : s.endStatement.Fits next where
  settled := by
    have hfinished := h.settled.append isFinished_semicolon fun _ _ _ => by decide
    simpa [Spelled.endStatement] using hfinished
  loose := h.loose
  slash hslash := absurd (Option.some.inj hslash) (by decide)

theorem Fits.write_quoted {mark : Char} {cs : List Char} (h : s.Fits (mark :: cs))
    (hm : mark = '"' ∨ mark = '`') (hleft : (quotedSpan mark cs).2 ≠ []) :
    (s.write (.quoted mark (mark :: (quotedSpan mark cs).1))).Fits (quotedSpan mark cs).2 := by
  have hwhole := IsWhole.quoted hm (quotedSpan_of_left hleft)
  have hslash : mark ≠ '/' ∧ mark ≠ '\n' := by
    rcases hm with rfl | rfl <;> decide
  refine h.settle ?_ hwhole.isFinished (List.cons_ne_nil _ _) (.inl rfl) (fun hlast => ?_) mark
  · exact fun hnext => hslash.2 (Option.some.inj hnext)
  · have hmark := List.mem_getLast?_cons (y := mark) (getLast?_quotedSpan hleft)
    exact absurd (Option.some.inj (hmark.symm.trans hlast)) hslash.1

theorem Fits.write_requoted {cs : List Char} (h : s.Fits ('\'' :: cs))
    (hleft : (requote cs).2 ≠ []) :
    (s.write (.quoted '"' ('"' :: (requote cs).1 ++ ['"']))).Fits (requote cs).2 := by
  have hwhole : IsWhole ⟨.quoted, '"' :: ((requote cs).1 ++ ['"'])⟩ := by
    refine .quoted (.inl rfl) fun rest => ?_
    rw [List.append_assoc]
    exact quotedSpan_requote hleft rest
  have hquote : ('"' :: (requote cs).1 ++ ['"']).getLast? = some '"' := List.getLast?_concat
  refine h.settle ?_ hwhole.isFinished (List.cons_ne_nil _ _) (.inr ⟨?_, ?_⟩) (fun hlast => ?_) '"'
  · exact fun hnext => absurd (Option.some.inj hnext) (by decide)
  · exact fun hhead => absurd (Option.some.inj hhead) (by decide)
  · exact fun hhead => absurd (Option.some.inj hhead) (by decide)
  · exact absurd (Option.some.inj (hquote.symm.trans hlast)) (by decide)

/-- The line break that ends a comment is still to be written. -/
theorem Fits.write_line {cs : List Char} (h : s.Fits ('/' :: '/' :: cs))
    (hleft : (lineSpan cs).2 ≠ []) :
    (s.write (.comment ('/' :: '/' :: (lineSpan cs).1))).Fits (lineSpan cs).2 := by
  have hnext : ('/' :: '/' :: cs).head? ≠ some '\n' := fun hnext =>
    absurd (Option.some.inj hnext) (by decide)
  have hcut : '/' :: '/' :: cs = '/' :: '/' :: (lineSpan cs).1 ++ (lineSpan cs).2 := by
    rw [List.cons_append, List.cons_append, lineSpan_append]
  have hline : '\n' ∉ (lineSpan cs).1 := fun hmem =>
    absurd (List.mem_takeWhile_imp hmem) (by decide)
  obtain ⟨left, hbreak, -⟩ := lineSpan_of_left hleft
  have hskip := (h.isSkipped hnext).append (isSkipped_line hline)
  rw [hcut] at h
  refine h.loosen (.inr ⟨by rw [hbreak]; rfl, ?_⟩)
  rwa [List.append_assoc]

theorem Fits.write_block {cs : List Char} (h : s.Fits ('/' :: '*' :: cs))
    (hleft : (blockSpan cs).2 ≠ []) :
    (s.write (.comment ('/' :: '*' :: (blockSpan cs).1))).Fits (blockSpan cs).2 := by
  have hnext : ('/' :: '*' :: cs).head? ≠ some '\n' := fun hnext =>
    absurd (Option.some.inj hnext) (by decide)
  have hcut : '/' :: '*' :: cs = '/' :: '*' :: (blockSpan cs).1 ++ (blockSpan cs).2 := by
    rw [List.cons_append, List.cons_append, blockSpan_append]
  have hskip := (h.isSkipped hnext).append (isSkipped_block (blockSpan_of_left hleft))
  rw [hcut] at h
  exact h.loosen (.inl hskip)

theorem Fits.write_strictOperator {c : Char} {cs : List Char} (h : s.Fits (c :: '=' :: '=' :: cs))
    (hc : c = '=' ∨ c = '!') : (s.write (.strictOperator c)).Fits cs := by
  have hequals : [c, '='].getLast? = some '=' := rfl
  refine h.settle ?_ (isFinished_operator hc) (List.cons_ne_nil _ _) (.inl rfl)
    (fun hlast => ?_) '='
  · rintro ⟨⟩
    exact absurd hc (by decide)
  · exact absurd (Option.some.inj (hequals.symm.trans hlast)) (by decide)

theorem Fits.write_word {c : Char} {cs : List Char} (h : s.Fits (c :: cs))
    (hc : isWordStart c = true) :
    (s.write (.word (c :: (wordSpan cs).1))).Fits (wordSpan cs).2 := by
  have hword : ∀ d ∈ c :: (wordSpan cs).1, isWordChar d = true :=
    List.forall_mem_cons.mpr ⟨isWordChar_of_isWordStart hc, fun d => List.mem_takeWhile_imp⟩
  have hspelling : IsSpelling (if s.previous = some '.' then c :: (wordSpan cs).1
      else scriptWord (c :: (wordSpan cs).1)) := by
    split
    · exact isSpelling_word hword
    · exact isSpelling_scriptWord hword
  refine h.settle ?_ hspelling.finished hspelling.ne_nil (.inr hspelling.head)
    (fun hlast => absurd hlast hspelling.last) _
  rintro ⟨⟩
  exact absurd hc (by decide)

/-- A line break ends the comment before it. -/
theorem Fits.write_lineBreak (h : s.Fits ('\n' :: left)) (carriesOn : Bool) :
    (s.write (.lineBreak carriesOn)).Fits left := by
  have hbreak : ∀ {s : Spelled}, s.Fits ('\n' :: left) → (s.loosen ['\n']).Fits left := by
    intro s h
    refine Fits.loosen h (.inl ?_)
    rcases h.loose with hskip | ⟨-, hskip⟩
    · exact hskip.append (isSkipped_blank (by decide))
    · exact hskip
  rw [Spelled.write]
  split
  · exact hbreak h.endStatement
  · exact hbreak h

theorem Fits.write_other {c : Char} (h : s.Fits (c :: left)) (hother : IsOther c left) :
    (s.write (.other c)).Fits left := by
  have hnext : (c :: left).head? ≠ some '\n' := fun hnext =>
    hother.lineBreak (Option.some.inj hnext)
  have h' : ({ s with opened := track s.opened c } : Spelled).Fits (c :: left) :=
    ⟨h.settled, h.loose, h.slash⟩
  rw [Spelled.write]
  split
  · rename_i hblank
    exact Fits.loosen h' (.inl ((h.isSkipped hnext).append (isSkipped_blank hblank)))
  · rename_i hblank
    have hfinished := isFinished_singleton (by simpa using hblank) hother.quote.1 hother.quote.2.1
    exact h'.settle hnext hfinished (List.cons_ne_nil _ _) (.inl rfl)
      (fun hlast => hother.comment (Option.some.inj hlast)) c

/-- A piece that something follows is written so that what has been written ends with a token. -/
theorem Fits.write {cs : List Char} {p : Piece} (h : s.Fits cs) (hcuts : Cuts cs p left)
    (hleft : left ≠ []) : (s.write p).Fits left := by
  cases hcuts with
  | quoted cs hm => exact h.write_quoted hm hleft
  | requoted cs => exact h.write_requoted hleft
  | line cs => exact h.write_line hleft
  | block cs => exact h.write_block hleft
  | strictOperator cs hc => exact h.write_strictOperator hc
  | word cs hc => exact h.write_word hc
  | lineBreak => exact h.write_lineBreak _
  | other hother => exact h.write_other hother

/-- All that is written of a body before its closing brace ends with a token. -/
theorem Fits.exists_foldl {cs : List Char} (hends : EndsInBrace cs) (h : s.Fits cs) :
    ∃ s' : Spelled, (pieces cs).foldl Spelled.write s = s'.write (.other '\x7d') ∧
      s'.Fits ['\x7d'] := by
  fun_induction pieces cs generalizing s with
  | case1 => simp [EndsInBrace] at hends
  | case2 c cs ih =>
    have hcuts := cuts_read c cs
    by_cases hleft : (Piece.read c cs).2 = []
    · rw [EndsInBrace, hcuts.pieces_eq, hleft, pieces_nil, List.getLast?_singleton,
        Option.some_inj] at hends
      rw [hends, hleft] at hcuts ⊢
      rw [pieces_nil]
      cases hcuts
      exact ⟨s, rfl, h⟩
    · exact ih ((hcuts.endsInBrace hleft).mp hends) (h.write hcuts hleft)

theorem fits_start (cs : List Char) : ({} : Spelled).Fits cs where
  settled := isFinished_nil
  loose := .inl isSkipped_nil
  slash hslash := by cases hslash

end Spelled

theorem tokens_append_brace (h : IsFinished cs) (rest : List Char) :
    tokens (cs ++ '\x7d' :: rest) = tokens cs ++ ofMark '\x7d' :: tokens rest := by
  have hbrace := tokens_mark (c := '\x7d') (by decide) (by decide) (by decide) (by decide) rest
  rw [tokens_append h, hbrace]
  intro t _ u hu
  rw [hbrace, List.head?_cons, Option.mem_some_iff] at hu
  rw [← hu]
  exact precedes_joint (by decide) t

/-- A body that ends in a brace is respelled to a text that is read as it stands there, whatever
comes after it. -/
theorem EndsInBrace.tokens_respell_append (h : EndsInBrace cs) (rest : List Char) :
    tokens (respell cs ++ rest) = tokens (respell cs) ++ tokens rest := by
  obtain ⟨s, hs, hfits⟩ := (Spelled.fits_start cs).exists_foldl h
  have hbreak : ['\x7d'].head? ≠ some '\n' := by decide
  have hfinished := hfits.isFinished_append hbreak isFinished_nil (.inr ⟨by decide, by decide⟩)
  have htext : respell cs =
      (s.settled.reverse ++ (s.loose.reverse ++ [])) ++ '\x7d' :: [] := by
    rw [respell, hs, Spelled.write, if_neg (by decide)]
    simp [Spelled.text, Spelled.settle]
  rw [htext, List.append_assoc, List.cons_append, List.nil_append, tokens_append_brace hfinished,
    tokens_append_brace hfinished, tokens_nil, List.append_assoc, List.cons_append, List.nil_append]

end NavigationBar.Template
