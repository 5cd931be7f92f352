import NavigationBar.Proofs.Template.CoreLanguage
import NavigationBar.Template.Normal

/-!
# What the respelling leaves alone

A part of a body is copied (`Copied`) if the respelling writes it as it stands, whatever it has
written before. That depends on what follows the part only by its first character, so copied parts
can be put together; the text of an expression is copied as a whole. What the normalization of an
expression changes are therefore its conditionals, and nothing else (`normalize_written`).
-/

namespace NavigationBar.Template

/-- Whether the respelling writes a part of a body as it stands when `rest` follows. -/
def Copied (cs rest : List Char) : Prop :=
  ∀ s : Spelled, ∃ s' : Spelled, s'.text = s.text ++ cs ∧
    (pieces (cs ++ rest)).foldl Spelled.write s = (pieces rest).foldl Spelled.write s'

/-- Whether what follows a part does not run on from it: it begins with a space or a joint. -/
def Separates (rest : List Char) : Prop :=
  ∀ c ∈ rest.head?, c ∈ ' ' :: joints

variable {cs ds rest : List Char}

theorem copied_nil (rest : List Char) : Copied [] rest :=
  fun s => ⟨s, (List.append_nil _).symm, rfl⟩

theorem Copied.append (hc : Copied cs (ds ++ rest)) (hd : Copied ds rest) :
    Copied (cs ++ ds) rest := by
  intro s
  obtain ⟨s₁, htext₁, hfold₁⟩ := hc s
  obtain ⟨s₂, htext₂, hfold₂⟩ := hd s₁
  refine ⟨s₂, ?_, ?_⟩
  · rw [htext₂, htext₁, List.append_assoc]
  · rw [List.append_assoc, hfold₁, hfold₂]

/-- A part that is one piece is copied if that piece is written as it stands. -/
theorem copied_of_read {c : Char} {p : Piece} (hread : Piece.read c (cs ++ rest) = (p, rest))
    (hwrite : ∀ s : Spelled, (s.write p).text = s.text ++ c :: cs) : Copied (c :: cs) rest := by
  intro s
  refine ⟨s.write p, hwrite s, ?_⟩
  rw [List.cons_append, pieces, hread, List.foldl_cons]

namespace Spelled

theorem text_settle (s : Spelled) (text : List Char) (last : Char) :
    (s.settle text last).text = s.text ++ text := by
  simp [settle, Spelled.text]

theorem text_loosen (s : Spelled) (text : List Char) :
    (s.loosen text).text = s.text ++ text := by
  simp [loosen, Spelled.text]

theorem text_write_other (s : Spelled) (c : Char) : (s.write (.other c)).text = s.text ++ [c] := by
  rw [write]
  split
  · exact text_loosen _ _
  · exact text_settle _ _ _

end Spelled

/-! ## Characters, names, integers and quoted texts -/

theorem copied_of_read_other {c : Char} (h : Piece.read c rest = (.other c, rest)) :
    Copied [c] rest :=
  copied_of_read h fun s => s.text_write_other c

/-- Characters that begin no piece longer than themselves, whatever follows them. -/
def isLone (c : Char) : Bool :=
  !(['"', '`', '\'', '/', '=', '!', '\n'].contains c) && !isWordStart c

theorem Copied.lone_cons {c : Char} (hc : isLone c = true) (h : Copied cs rest) :
    Copied (c :: cs) rest := by
  simp only [isLone, Bool.and_eq_true, Bool.not_eq_true', List.contains_eq_mem,
    decide_eq_false_iff_not, List.mem_cons, List.not_mem_nil, or_false, not_or] at hc
  obtain ⟨⟨h₁, h₂, h₃, h₄, h₅, h₆, h₇⟩, hw⟩ := hc
  refine Copied.append (copied_of_read_other ?_) h
  simp [Piece.read, h₁, h₂, h₃, h₄, h₅, h₆, h₇, hw]

theorem separates_nil : Separates [] := by
  simp [Separates]

theorem separates_cons {d : Char} (hd : d ∈ ' ' :: joints) (rest : List Char) :
    Separates (d :: rest) := by
  rintro c ⟨⟩
  exact hd

theorem Separates.not_word (h : Separates rest) : ∀ c ∈ rest.head?, isWordChar c = false := by
  have hall : ∀ d ∈ ' ' :: joints, isWordChar d = false :=
    List.forall_mem_cons.2 ⟨by decide, fun d hd => (forall_mem_joints d hd).2.2.2.1⟩
  exact fun c hc => hall c (h c hc)

theorem scriptWord_of_not_reserved {w : List Char} (h : w ∉ reservedWords) :
    Spelled.scriptWord w = w := by
  simp only [reservedWords, List.mem_append, List.mem_cons, List.not_mem_nil, or_false,
    not_or] at h
  obtain ⟨-, hvar, hnull, hundefined⟩ := h
  rw [Spelled.scriptWord, if_neg (not_or.2 ⟨hnull, hundefined⟩), if_neg hvar]

/-- A word is copied if it is none of those that are respelled. -/
theorem copied_word {c : Char} (hstart : isWordStart c = true)
    (hword : ∀ d ∈ cs, isWordChar d = true) (hscript : Spelled.scriptWord (c :: cs) = c :: cs)
    (h : Separates rest) : Copied (c :: cs) rest := by
  have hne : ∀ d ∈ ['"', '`', '\'', '/', '=', '!'], c ≠ d := by
    rintro d hd rfl
    have hall : (['"', '`', '\'', '/', '=', '!'].all fun d => !isWordStart d) = true := by decide
    exact absurd (List.all_eq_true.1 hall _ hd) (by simp [hstart])
  simp only [List.forall_mem_cons] at hne
  obtain ⟨h₁, h₂, h₃, h₄, h₅, h₆, -⟩ := hne
  refine copied_of_read (p := .word (c :: cs)) ?_ fun s => ?_
  · simp [Piece.read, h₁, h₂, h₃, h₄, h₅, h₆, hstart, wordSpan_append_eq hword h.not_word]
  · rw [Spelled.write, hscript, ite_self]
    exact s.text_settle _ _

/-- A name is copied: it is none of the words that are respelled. -/
theorem Name.copied (n : Name) (h : Separates rest) : Copied n.text rest :=
  copied_word n.first_start n.rest_word (scriptWord_of_not_reserved n.not_reserved) h

theorem isLone_of_isDigit {c : Char} (h : c.isDigit = true) : isLone c = true := by
  have hall : ∀ n ∈ List.range' 48 10, isLone (Char.ofNat n) = true := by decide +kernel
  rw [← Char.ofNat_toNat c]
  refine hall _ ?_
  simp only [Char.isDigit, Bool.and_eq_true, decide_eq_true_eq] at h
  have h₁ : 48 ≤ c.toNat := h.1
  have h₂ : c.toNat ≤ 57 := h.2
  rw [List.mem_range'_1]
  omega

/-- An integer is copied digit by digit. -/
theorem Numeral.copied (n : Numeral) (rest : List Char) : Copied n.text rest := by
  have hall : ∀ cs : List Char, (∀ c ∈ cs, c.isDigit = true) → Copied cs rest := by
    intro cs hcs
    induction cs with
    | nil => exact copied_nil rest
    | cons c cs ih =>
      obtain ⟨hc, hcs⟩ := List.forall_mem_cons.1 hcs
      exact (ih hcs).lone_cons (isLone_of_isDigit hc)
  exact hall n.text n.isDigit

/-- A text in double quotes is copied, escapes included. -/
theorem copied_quoted (parts : List QuotedPart) (rest : List Char) :
    Copied ('"' :: quotedInner parts) rest := by
  refine copied_of_read (p := .quoted '"' ('"' :: quotedInner parts)) ?_ fun s => s.text_settle _ _
  simp [Piece.read, quotedSpan_quotedInner]

/-- An operator is copied when a space follows. -/
theorem BinaryOperator.copied (op : BinaryOperator) (rest : List Char) :
    Copied op.text (' ' :: rest) := by
  have hstart : isWordStart '=' = false ∧ isWordStart '!' = false ∧ isWordStart '/' = false := by
    decide
  have hequals : Copied ['='] (' ' :: rest) := copied_of_read_other (by simp [Piece.read, hstart])
  cases op
  case divide => exact copied_of_read_other (by simp [Piece.read, hstart])
  case equal => exact Copied.append (copied_of_read_other (by simp [Piece.read, hstart])) hequals
  case unequal => exact Copied.append (copied_of_read_other (by simp [Piece.read, hstart])) hequals
  case lessOrEqual => exact hequals.lone_cons (by decide)
  case greaterOrEqual => exact hequals.lone_cons (by decide)
  case and | or | coalesce =>
    exact ((copied_nil _).lone_cons (by decide)).lone_cons (by decide)
  all_goals exact (copied_nil _).lone_cons (by decide)

/-! ## Expressions -/

/-- Something copied between brackets. -/
theorem copied_brackets {o c : Char} (ho : isLone o = true) (hc : isLone c = true)
    (h : Copied cs (c :: rest)) : Copied (o :: (cs ++ [c])) rest :=
  (Copied.append h ((copied_nil rest).lone_cons hc)).lone_cons ho

/-- Something copied between spaces. -/
theorem copied_spaces {mid : List Char} (hc : Copied cs (' ' :: (mid ++ ' ' :: (ds ++ rest))))
    (hm : Copied mid (' ' :: (ds ++ rest))) (hd : Copied ds rest) :
    Copied (cs ++ ' ' :: (mid ++ ' ' :: ds)) rest := by
  have hmid : Copied (mid ++ ' ' :: ds) rest := Copied.append hm (hd.lone_cons (by decide))
  refine Copied.append ?_ (hmid.lone_cons (by decide))
  simpa using hc

/-- A conditional is copied if its parts are. -/
theorem copied_writtenForm {c a b : List Char} (hc : ∀ rest, Separates rest → Copied c rest)
    (ha : ∀ rest, Separates rest → Copied a rest) (hb : ∀ rest, Separates rest → Copied b rest)
    (rest : List Char) (h : Separates rest) : Copied (writtenForm c a b) rest := by
  have hquestion : Copied ['?'] (' ' :: (a ++ (' ' :: ':' :: ' ' :: b) ++ rest)) :=
    (copied_nil _).lone_cons (by decide)
  have hcolon : Copied [':'] (' ' :: (b ++ rest)) := (copied_nil _).lone_cons (by decide)
  have htail := copied_spaces (ha _ (separates_cons (by decide) _)) hcolon (hb _ h)
  have hall := copied_spaces (hc _ (separates_cons (by decide) _)) hquestion htail
  simpa [writtenForm] using hall

mutual

/-- The text of a term is copied. -/
theorem Term.copied (t : Term) (rest : List Char) (h : Separates rest) :
    Copied (t.text writtenForm) rest := by
  have hjoint : ∀ {d : Char} (cs : List Char), d ∈ joints → Separates (d :: cs) :=
    fun cs hd => separates_cons (List.mem_cons_of_mem _ hd) cs
  cases t with
  | name n => exact n.copied h
  | numeral n => exact n.copied rest
  | quoted parts => exact copied_quoted parts rest
  | member base n =>
    exact Copied.append (Term.copied base _ (hjoint _ (by decide)))
      ((n.copied h).lone_cons (by decide))
  | call base args =>
    exact Copied.append (Term.copied base _ (hjoint _ (by decide)))
      (copied_brackets (by decide) (by decide) (Items.copied args _ (hjoint _ (by decide))))
  | index base e =>
    exact Copied.append (Term.copied base _ (hjoint _ (by decide)))
      (copied_brackets (by decide) (by decide) (Expression.copied e _ (hjoint _ (by decide))))
  | paren e =>
    exact copied_brackets (by decide) (by decide) (Expression.copied e _ (hjoint _ (by decide)))
  | array items =>
    exact copied_brackets (by decide) (by decide) (Items.copied items _ (hjoint _ (by decide)))
  | map entries =>
    exact (copied_brackets (by decide) (by decide)
      (Entries.copied entries _ (hjoint _ (by decide)))).lone_cons (by decide)
  | binary left op right =>
    exact copied_spaces (Term.copied left _ (separates_cons (by decide) _)) (op.copied _)
      (Term.copied right _ h)

/-- The text of an expression is copied. -/
theorem Expression.copied (e : Expression) (rest : List Char) (h : Separates rest) :
    Copied (e.text writtenForm) rest := by
  cases e with
  | term t => exact Term.copied t _ h
  | conditional c a b =>
    exact copied_writtenForm (Term.copied c) (Expression.copied a) (Expression.copied b) _ h

/-- The text of expressions in a row is copied. -/
theorem Items.copied (items : Items) (rest : List Char) (h : Separates rest) :
    Copied (items.text writtenForm) rest := by
  cases items with
  | nil => exact copied_nil rest
  | cons e more =>
    have ih := Items.copied more _ h
    cases more with
    | nil => exact Expression.copied e _ h
    | cons e' more =>
      exact Copied.append (Expression.copied e _ (separates_cons (by decide) _))
        ((ih.lone_cons (by decide)).lone_cons (by decide))

/-- The text of expressions with keys in a row is copied. -/
theorem Entries.copied (entries : Entries) (rest : List Char) (h : Separates rest) :
    Copied (entries.text writtenForm) rest := by
  cases entries with
  | nil => exact copied_nil rest
  | cons key e more =>
    have ih := Entries.copied more _ h
    have hkey : ∀ {cs : List Char}, Copied cs rest → Copied (key.text ++ ':' :: ' ' :: cs) rest :=
      fun hc => Copied.append (key.copied (separates_cons (by decide) _))
        ((hc.lone_cons (by decide)).lone_cons (by decide))
    cases more with
    | nil => exact hkey (Expression.copied e _ h)
    | cons key' e' more =>
      exact hkey (Copied.append (Expression.copied e _ (separates_cons (by decide) _))
        ((ih.lone_cons (by decide)).lone_cons (by decide)))

end

/-- The respelling leaves a body alone that is copied as a whole. -/
theorem Copied.respell_eq (h : Copied cs []) : respell cs = cs := by
  obtain ⟨s, htext, hfold⟩ := h {}
  rw [List.append_nil, pieces, List.foldl_nil] at hfold
  rw [respell, hfold, htext]
  rfl

/-- The respelling leaves expressions alone. -/
theorem respell_written (e : Expression) :
    respell (e.text writtenForm) = e.text writtenForm :=
  (e.copied [] separates_nil).respell_eq

/-! ## From bodies to scripts -/

theorem isWrittenAs_conditional : IsWrittenAs conditional writtenForm := by
  intro c a b
  simp [conditional, writtenForm, Token.space, Token.ofMark]

theorem isWrittenAs_scriptConditional : IsWrittenAs scriptConditional scriptForm := by
  intro c a b
  unfold scriptConditional scriptForm
  simp [Token.space, Token.ofMark, Token.ofWord]

/-- The script of an expression is its text with every conditional in the form that scripts have for
it, and nothing else changed. -/
theorem normalize_written (e : Expression) :
    normalize (e.text writtenForm) = e.text scriptForm := by
  obtain ⟨n, hpending⟩ := e.pending
  rw [normalize, respell_written, ← e.source_tokens isWrittenAs_conditional,
    ← e.source_tokens isWrittenAs_scriptConditional]
  exact hpending.eraseConditionals_source e.lexed.2

end NavigationBar.Template
