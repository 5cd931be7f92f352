import NavigationBar.Proofs.Template.Unwinding

/-!
# The core language of bodies

Expressions as authors write them in bodies: names, integers, quoted texts, member access, calls,
indexing, parentheses, lists, maps, binary operators and conditionals. A conditional that is an
operand, a condition or the base of a link stands in parentheses; so terms, which may stand there,
are apart from expressions.
-/

namespace NavigationBar.Template

open Token

/-- The words that are no names: those that no condition reaches over, and those that are respelled.
-/
def reservedWords : List (List Char) :=
  Placed.outerWords ++ ["var".toList, "null".toList, "undefined".toList]

/-- A name. -/
structure Name where
  /-- Its first character. -/
  first : Char
  /-- The characters after the first. -/
  rest : List Char
  /-- It begins like a word. -/
  first_start : isWordStart first = true
  /-- It goes on like a word. -/
  rest_word : ∀ c ∈ rest, isWordChar c = true
  /-- It is none of the words with a meaning of their own. -/
  not_reserved : first :: rest ∉ reservedWords

/-- An integer. -/
structure Numeral where
  /-- Its first digit. -/
  first : Char
  /-- The digits after the first. -/
  rest : List Char
  /-- They are digits. -/
  isDigit : ∀ c ∈ first :: rest, c.isDigit = true

/-- A part of a text in double quotes. -/
inductive QuotedPart where
  /-- A character that stands for itself. -/
  | plain (c : Char) (hquote : c ≠ '"') (hescape : c ≠ '\\')
  /-- A backslash and the character after it. -/
  | escaped (c : Char)

/-- A binary operator. -/
inductive BinaryOperator where
  | add | subtract | multiply | divide | remainder | equal | unequal | less | greater | lessOrEqual
  | greaterOrEqual | and | or | coalesce

mutual

/-- An expression that is no conditional. -/
inductive Term where
  /-- A variable. -/
  | name (n : Name)
  /-- An integer. -/
  | numeral (n : Numeral)
  /-- A text in double quotes. -/
  | quoted (parts : List QuotedPart)
  /-- The member of a value. -/
  | member (base : Term) (n : Name)
  /-- A call. -/
  | call (base : Term) (args : Items)
  /-- An element of a value. -/
  | index (base : Term) (e : Expression)
  /-- An expression in parentheses. -/
  | paren (e : Expression)
  /-- A list. -/
  | array (items : Items)
  /-- A map. -/
  | map (entries : Entries)
  /-- A binary operator between its operands. -/
  | binary (left : Term) (op : BinaryOperator) (right : Term)

/-- An expression. -/
inductive Expression where
  /-- A term. -/
  | term (t : Term)
  /-- A conditional. -/
  | conditional (c : Term) (a b : Expression)

/-- Expressions in a row. -/
inductive Items where
  /-- None. -/
  | nil
  /-- One before others. -/
  | cons (e : Expression) (rest : Items)

/-- Expressions in a row, each with a key. -/
inductive Entries where
  /-- None. -/
  | nil
  /-- One before others. -/
  | cons (key : Name) (e : Expression) (rest : Entries)

end

/-! ## Printing -/

/-- The characters of a name. -/
def Name.text (n : Name) : List Char :=
  n.first :: n.rest

/-- The characters of an integer. -/
def Numeral.text (n : Numeral) : List Char :=
  n.first :: n.rest

/-- The characters of a part of a quoted text. -/
def QuotedPart.text : QuotedPart → List Char
  | plain c _ _ => [c]
  | escaped c => ['\\', c]

/-- A quoted text after its opening quote. -/
def quotedInner (parts : List QuotedPart) : List Char :=
  parts.flatMap QuotedPart.text ++ ['"']

/-- The characters of an operator. -/
def BinaryOperator.text : BinaryOperator → List Char
  | add => ['+']
  | subtract => ['-']
  | multiply => ['*']
  | divide => ['/']
  | remainder => ['%']
  | equal => ['=', '=']
  | unequal => ['!', '=']
  | less => ['<']
  | greater => ['>']
  | lessOrEqual => ['<', '=']
  | greaterOrEqual => ['>', '=']
  | and => ['&', '&']
  | or => ['|', '|']
  | coalesce => ['?', '?']

/-- How a conditional is written, given its condition and its two operands. -/
abbrev ConditionalForm (α : Type) := List α → List α → List α → List α

mutual

/-- The text of a term, with conditionals in a given form. -/
def Term.text (form : ConditionalForm Char) : Term → List Char
  | .name n => n.text
  | .numeral n => n.text
  | .quoted parts => '"' :: quotedInner parts
  | .member base n => base.text form ++ '.' :: n.text
  | .call base args => base.text form ++ '(' :: (args.text form ++ [')'])
  | .index base e => base.text form ++ '[' :: (e.text form ++ [']'])
  | .paren e => '(' :: (e.text form ++ [')'])
  | .array items => '[' :: (items.text form ++ [']'])
  | .map entries => '#' :: '\x7b' :: (entries.text form ++ ['\x7d'])
  | .binary left op right => left.text form ++ ' ' :: (op.text ++ ' ' :: right.text form)

/-- The text of an expression, with conditionals in a given form. -/
def Expression.text (form : ConditionalForm Char) : Expression → List Char
  | .term t => t.text form
  | .conditional c a b => form (c.text form) (a.text form) (b.text form)

/-- The text of expressions, with commas between them. -/
def Items.text (form : ConditionalForm Char) : Items → List Char
  | .nil => []
  | .cons e .nil => e.text form
  | .cons e rest => e.text form ++ ',' :: ' ' :: rest.text form

/-- The text of expressions with keys, with commas between them. -/
def Entries.text (form : ConditionalForm Char) : Entries → List Char
  | .nil => []
  | .cons key e .nil => key.text ++ ':' :: ' ' :: e.text form
  | .cons key e rest => key.text ++ ':' :: ' ' :: (e.text form ++ ',' :: ' ' :: rest.text form)

end

/-- Conditionals as authors write them: `c ? a : b`. -/
def writtenForm : ConditionalForm Char := fun c a b =>
  c ++ " ? ".toList ++ a ++ " : ".toList ++ b

/-- Conditionals as scripts have them: `(if c { a } else { b })`. -/
def scriptForm : ConditionalForm Char := fun c a b =>
  "(if ".toList ++ c ++ " \x7b ".toList ++ a ++ " \x7d else \x7b ".toList ++ b ++ " \x7d)".toList

/-! ## The tokens of an expression -/

/-- The tokens of an operator. -/
def BinaryOperator.tokens (op : BinaryOperator) : List Token :=
  op.text.map ofMark

mutual

/-- The tokens of a term, with conditionals in a given form. -/
def Term.tokens (form : ConditionalForm Token) : Term → List Token
  | .name n => [ofWord n.text]
  | .numeral n => [ofWord n.text]
  | .quoted parts => [ofQuoted (quotedInner parts)]
  | .member base n => base.tokens form ++ [ofMark '.', ofWord n.text]
  | .call base args => base.tokens form ++ ofMark '(' :: (args.tokens form ++ [ofMark ')'])
  | .index base e => base.tokens form ++ ofMark '[' :: (e.tokens form ++ [ofMark ']'])
  | .paren e => ofMark '(' :: (e.tokens form ++ [ofMark ')'])
  | .array items => ofMark '[' :: (items.tokens form ++ [ofMark ']'])
  | .map entries => ofMark '#' :: ofMark '\x7b' :: (entries.tokens form ++ [ofMark '\x7d'])
  | .binary left op right => spaced [left.tokens form, op.tokens, right.tokens form]

/-- The tokens of an expression, with conditionals in a given form. -/
def Expression.tokens (form : ConditionalForm Token) : Expression → List Token
  | .term t => t.tokens form
  | .conditional c a b => form (c.tokens form) (a.tokens form) (b.tokens form)

/-- The tokens of expressions, with commas between them. -/
def Items.tokens (form : ConditionalForm Token) : Items → List Token
  | .nil => []
  | .cons e .nil => e.tokens form
  | .cons e rest => e.tokens form ++ ([ofMark ',', space] ++ rest.tokens form)

/-- The tokens of expressions with keys, with commas between them. -/
def Entries.tokens (form : ConditionalForm Token) : Entries → List Token
  | .nil => []
  | .cons key e .nil => [ofWord key.text, ofMark ':', space] ++ e.tokens form
  | .cons key e rest => [ofWord key.text, ofMark ':', space] ++ e.tokens form ++
      ([ofMark ',', space] ++ rest.tokens form)

end

theorem source_map_ofMark (cs : List Char) : source (cs.map ofMark) = cs := by
  induction cs with
  | nil => rfl
  | cons c cs ih => rw [List.map_cons, source_cons, ih]; rfl

/-- Whether conditionals of one form are written like those of another. -/
def IsWrittenAs (tokenForm : ConditionalForm Token) (form : ConditionalForm Char) : Prop :=
  ∀ c a b, source (tokenForm c a b) = form (source c) (source a) (source b)

section Source

variable {form : ConditionalForm Char} {tokenForm : ConditionalForm Token}

mutual

theorem Term.source_tokens (h : IsWrittenAs tokenForm form) (t : Term) :
    source (t.tokens tokenForm) = t.text form := by
  cases t with
  | name n => simp [Term.tokens, Term.text, ofWord]
  | numeral n => simp [Term.tokens, Term.text, ofWord]
  | quoted parts => simp [Term.tokens, Term.text, ofQuoted]
  | member base n => simp [Term.tokens, Term.text, Term.source_tokens h base, ofMark, ofWord]
  | call base args =>
    simp [Term.tokens, Term.text, Term.source_tokens h base, Items.source_tokens h args, ofMark]
  | index base e =>
    simp [Term.tokens, Term.text, Term.source_tokens h base, Expression.source_tokens h e, ofMark]
  | paren e => simp [Term.tokens, Term.text, Expression.source_tokens h e, ofMark]
  | array items => simp [Term.tokens, Term.text, Items.source_tokens h items, ofMark]
  | map entries => simp [Term.tokens, Term.text, Entries.source_tokens h entries, ofMark]
  | binary left op right =>
    simp [Term.tokens, Term.text, Term.source_tokens h left, Term.source_tokens h right, spaced,
      BinaryOperator.tokens, source_map_ofMark, space]

theorem Expression.source_tokens (h : IsWrittenAs tokenForm form) (e : Expression) :
    source (e.tokens tokenForm) = e.text form := by
  cases e with
  | term t => rw [Expression.tokens, Expression.text, Term.source_tokens h t]
  | conditional c a b =>
    rw [Expression.tokens, Expression.text, h, Term.source_tokens h c, Expression.source_tokens h a,
      Expression.source_tokens h b]

theorem Items.source_tokens (h : IsWrittenAs tokenForm form) (items : Items) :
    source (items.tokens tokenForm) = items.text form := by
  cases items with
  | nil => rfl
  | cons e rest =>
    have ih := Items.source_tokens h rest
    cases rest <;>
      simp_all [Items.tokens, Items.text, Expression.source_tokens h e, ofMark, space]

theorem Entries.source_tokens (h : IsWrittenAs tokenForm form) (entries : Entries) :
    source (entries.tokens tokenForm) = entries.text form := by
  cases entries with
  | nil => rfl
  | cons key e rest =>
    have ih := Entries.source_tokens h rest
    cases rest <;>
      simp_all [Entries.tokens, Entries.text, Expression.source_tokens h e, ofMark, ofWord, space]

end

end Source

/-! ## Expressions are read back -/

theorem Name.isWordChar (n : Name) : ∀ c ∈ n.text, isWordChar c = true :=
  List.forall_mem_cons.2 ⟨isWordChar_of_isWordStart n.first_start, n.rest_word⟩

theorem Name.isWhole (n : Name) : (ofWord n.text).IsWhole :=
  .word n.isWordChar

theorem isWordChar_of_isDigit {c : Char} (h : c.isDigit = true) : isWordChar c = true := by
  simp only [isWordChar, Text.isLetterOrNumber, Bool.or_eq_true]
  left; left
  have hc : c.toNat < 128 := by
    simp only [Char.isDigit, Bool.and_eq_true, decide_eq_true_eq] at h
    have h₂ : c.toNat ≤ 57 := h.2
    omega
  simp [hc, Char.isAlphanum, h]

theorem Numeral.isWhole (n : Numeral) : (ofWord n.text).IsWhole :=
  .word fun c hc => isWordChar_of_isDigit (n.isDigit c hc)

theorem quotedSpan_quotedInner (parts : List QuotedPart) (rest : List Char) :
    quotedSpan '"' (quotedInner parts ++ rest) = (quotedInner parts, rest) := by
  induction parts with
  | nil => rfl
  | cons part parts ih =>
    cases part with
    | plain c hquote hescape =>
      have hcons : quotedInner (.plain c hquote hescape :: parts) = c :: quotedInner parts := rfl
      rw [hcons, List.cons_append, quotedSpan, if_neg hquote, ih]
      all_goals simp [hescape]
    | escaped c =>
      have hcons : quotedInner (.escaped c :: parts) = '\\' :: c :: quotedInner parts := rfl
      rw [hcons, List.cons_append, List.cons_append, quotedSpan, ih]

theorem lexed_map_ofMark {cs : List Char} (hw : ∀ c ∈ cs, (ofMark c).IsWhole)
    (hs : cs.IsChain fun c _ => c ≠ '/') : Lexed (cs.map ofMark) := by
  induction cs with
  | nil => exact lexed_nil
  | cons c cs ih =>
    obtain ⟨hc, hcs⟩ := List.forall_mem_cons.1 hw
    obtain ⟨hnext, hchain⟩ := List.isChain_cons.1 hs
    refine (ih hcs hchain).cons hc fun t ht => ?_
    cases cs with
    | nil => exact absurd ht nofun
    | cons d cs => exact mark_precedes (hnext d rfl) t

theorem BinaryOperator.lexed (op : BinaryOperator) : Lexed op.tokens := by
  have hall : op.text.all (fun c =>
      !Text.isBlank c && c != '"' && c != '`' && !isWordChar c) = true := by cases op <;> decide
  have hmark : ∀ c ∈ op.text, Text.isBlank c = false ∧ c ≠ '"' ∧ c ≠ '`' ∧
      isWordChar c = false := by simpa [and_assoc] using hall
  refine lexed_map_ofMark (fun c hc => ?_) (by cases op <;> decide)
  obtain ⟨hb, hq, ht, hw⟩ := hmark c hc
  exact .mark hb hq ht hw

theorem BinaryOperator.isSolid (op : BinaryOperator) : IsSolid op.tokens := by
  cases op <;> first
    | exact isSolid_singleton nofun
    | exact ⟨⟨_, _, rfl, nofun⟩, ⟨[_], _, rfl, nofun⟩⟩

theorem lexed_conditional {c a b : List Token} (hc : Lexed c) (ha : Lexed a) (hb : Lexed b)
    (hsc : IsSolid c) (hsa : IsSolid a) (hsb : IsSolid b) :
    IsSolid (conditional c a b) ∧ Lexed (conditional c a b) := by
  have hmark : ∀ d, IsSolid [ofMark d] := fun d => isSolid_singleton nofun
  have hsolid : ∀ ts ∈ [c, [ofMark '?'], a, [ofMark ':'], b], IsSolid ts := by
    simp only [List.forall_mem_cons]
    exact ⟨hsc, hmark _, hsa, hmark _, hsb, nofun⟩
  rw [conditional_eq_spaced]
  refine ⟨isSolid_spaced hsolid nofun, lexed_spaced hsolid ?_⟩
  simp only [List.forall_mem_cons]
  exact ⟨hc, lexed_joint (by decide), ha, lexed_joint (by decide), hb, nofun⟩

mutual

/-- The tokens of a term are read back. -/
theorem Term.lexed (t : Term) :
    IsSolid (t.tokens conditional) ∧ Lexed (t.tokens conditional) := by
  have hmark : ∀ d, IsSolid [ofMark d] := fun d => isSolid_singleton nofun
  cases t with
  | name n => exact ⟨isSolid_singleton nofun, lexed_singleton n.isWhole⟩
  | numeral n => exact ⟨isSolid_singleton nofun, lexed_singleton n.isWhole⟩
  | quoted parts =>
    exact ⟨isSolid_singleton nofun,
      lexed_singleton (.quoted (.inl rfl) (quotedSpan_quotedInner parts))⟩
  | member base n =>
    obtain ⟨hs, hl⟩ := Term.lexed base
    have hword : IsSolid [ofWord n.text] := isSolid_singleton nofun
    exact ⟨hs.append hword [ofMark '.'],
      hl.append_joint (by decide) (lexed_singleton n.isWhole)⟩
  | call base args =>
    obtain ⟨hs, hl⟩ := Term.lexed base
    exact ⟨hs.append (hmark ')') (ofMark '(' :: args.tokens conditional),
      hl.append_joint (by decide) ((Items.lexed args).2.append_joint (by decide) lexed_nil)⟩
  | index base e =>
    obtain ⟨hs, hl⟩ := Term.lexed base
    exact ⟨hs.append (hmark ']') (ofMark '[' :: e.tokens conditional),
      hl.append_joint (by decide) ((Expression.lexed e).2.append_joint (by decide) lexed_nil)⟩
  | paren e =>
    exact ⟨(hmark '(').append (hmark ')') _,
      (Expression.lexed e).2.brackets (by decide) (by decide)⟩
  | array items =>
    exact ⟨(hmark '[').append (hmark ']') _, (Items.lexed items).2.brackets (by decide) (by decide)⟩
  | map entries =>
    exact ⟨(hmark '#').append (hmark '\x7d') (ofMark '\x7b' :: entries.tokens conditional),
      ((Entries.lexed entries).2.brackets (by decide) (by decide)).joint_cons (by decide)⟩
  | binary left op right =>
    obtain ⟨hsl, hll⟩ := Term.lexed left
    obtain ⟨hsr, hlr⟩ := Term.lexed right
    have hsolid : ∀ ts ∈ [left.tokens conditional, op.tokens, right.tokens conditional],
        IsSolid ts := by
      simp only [List.forall_mem_cons]
      exact ⟨hsl, op.isSolid, hsr, nofun⟩
    refine ⟨isSolid_spaced hsolid nofun, lexed_spaced hsolid ?_⟩
    simp only [List.forall_mem_cons]
    exact ⟨hll, op.lexed, hlr, nofun⟩

/-- The tokens of an expression are read back. -/
theorem Expression.lexed (e : Expression) :
    IsSolid (e.tokens conditional) ∧ Lexed (e.tokens conditional) := by
  cases e with
  | term t => exact Term.lexed t
  | conditional c a b =>
    obtain ⟨hsc, hlc⟩ := Term.lexed c
    obtain ⟨hsa, hla⟩ := Expression.lexed a
    obtain ⟨hsb, hlb⟩ := Expression.lexed b
    exact lexed_conditional hlc hla hlb hsc hsa hsb

/-- The tokens of expressions in a row are read back. -/
theorem Items.lexed (items : Items) :
    (∀ t ∈ (items.tokens conditional).head?, t.kind ≠ .trivia) ∧
      Lexed (items.tokens conditional) := by
  cases items with
  | nil => exact ⟨nofun, lexed_nil⟩
  | cons e rest =>
    obtain ⟨hs, hl⟩ := Expression.lexed e
    obtain ⟨hhead, hrest⟩ := Items.lexed rest
    cases rest with
    | nil => exact ⟨hs.of_mem_head?, hl⟩
    | cons e' rest =>
      refine ⟨?_, hl.append_joint (by decide) (hrest.space_cons hhead)⟩
      obtain ⟨t, us, htu, ht⟩ := hs.head
      rw [Items.tokens, htu]
      · rintro t ⟨⟩
        exact ht
      · exact nofun

/-- The tokens of expressions with keys in a row are read back. -/
theorem Entries.lexed (entries : Entries) :
    (∀ t ∈ (entries.tokens conditional).head?, t.kind ≠ .trivia) ∧
      Lexed (entries.tokens conditional) := by
  cases entries with
  | nil => exact ⟨nofun, lexed_nil⟩
  | cons key e rest =>
    obtain ⟨hs, hl⟩ := Expression.lexed e
    obtain ⟨hhead, hrest⟩ := Entries.lexed rest
    have hkey : Lexed ([ofWord key.text, ofMark ':', space] ++ e.tokens conditional) :=
      ((hl.space_cons hs.of_mem_head?).joint_cons (by decide)).cons key.isWhole fun t ht => by
        obtain rfl := Option.some.inj ht
        exact precedes_joint (by decide) _
    cases rest with
    | nil =>
      refine ⟨?_, hkey⟩
      rintro t ⟨⟩
      exact nofun
    | cons key' e' rest =>
      refine ⟨?_, hkey.append_joint (by decide) (hrest.space_cons hhead)⟩
      rintro t ⟨⟩
      exact nofun

end

/-! ## The conditionals of an expression -/

theorem Name.isPlain (n : Name) : Everywhere Placed.IsPlain [ofWord n.text] :=
  isPlain_ofWord fun h => n.not_reserved (List.mem_append_left _ h)

theorem Numeral.isPlain (n : Numeral) : Everywhere Placed.IsPlain [ofWord n.text] := by
  refine isPlain_ofWord fun h => ?_
  have hdigit := n.isDigit n.first List.mem_cons_self
  have hnone : ∀ w ∈ Placed.outerWords, w.head?.any Char.isDigit = false := by decide
  have hfirst : n.first.isDigit = false := hnone _ h
  rw [hfirst] at hdigit
  exact absurd hdigit nofun

theorem isPlain_ofQuoted (inner : List Char) : Everywhere Placed.IsPlain [ofQuoted inner] := by
  refine everywhere_of_forall fun t ht left right => ?_
  rw [List.mem_singleton.1 ht]
  exact ⟨rfl, rfl, rfl⟩

theorem isPlain_ofMark {d : Char} (h : d ∈ ['.', '#', '|']) :
    Everywhere Placed.IsPlain [ofMark d] := by
  refine everywhere_of_forall fun t ht left right => ?_
  rw [List.mem_singleton.1 ht]
  simp only [List.mem_cons, List.not_mem_nil, or_false] at h
  rcases h with rfl | rfl | rfl <;> exact ⟨rfl, rfl, rfl⟩

theorem BinaryOperator.isPlain (op : BinaryOperator) : Everywhere Placed.IsPlain op.tokens := by
  intro left right p hp
  cases op <;>
    simp only [BinaryOperator.tokens, BinaryOperator.text, List.map_cons, List.map_nil,
      placeWithin, List.mem_cons, List.not_mem_nil, or_false] at hp
  all_goals first | subst hp | rcases hp with rfl | rfl
  all_goals
    constructor <;>
      simp [Placed.isOpening, Placed.isClosing, Placed.endsCondition, Placed.isQuestion,
        Placed.isColon, Placed.isAssignment, Placed.isMark, ofMark, headChar]

theorem Name.getLast?_ne (n : Name) : n.text.getLast? ≠ some ':' := by
  intro hlast
  exact absurd (n.isWordChar ':' (List.mem_of_getLast? hlast)) (by decide)

mutual

/-- The pass rewrites the conditionals of a term, all of which stand in brackets. -/
theorem Term.pending (t : Term) :
    ∃ n, Pending .operand n (t.tokens conditional) (t.tokens scriptConditional) := by
  cases t with
  | name n => exact ⟨0, .plain n.isPlain⟩
  | numeral n => exact ⟨0, .plain n.isPlain⟩
  | quoted parts => exact ⟨0, .plain (isPlain_ofQuoted _)⟩
  | member base n =>
    obtain ⟨k, hbase⟩ := Term.pending base
    exact ⟨_, hbase.append (.plain (everywhere_append (isPlain_ofMark (by decide)) n.isPlain))⟩
  | call base args =>
    obtain ⟨k, hbase⟩ := Term.pending base
    obtain ⟨m, hargs⟩ := Items.pending args
    exact ⟨_, hbase.append (.group (by decide) (by decide) hargs)⟩
  | index base e =>
    obtain ⟨k, hbase⟩ := Term.pending base
    obtain ⟨m, he⟩ := Expression.pending e
    exact ⟨_, hbase.append (.group (by decide) (by decide) (.item he))⟩
  | paren e =>
    obtain ⟨n, he⟩ := Expression.pending e
    exact ⟨_, .group (by decide) (by decide) (.item he)⟩
  | array items =>
    obtain ⟨n, hitems⟩ := Items.pending items
    exact ⟨_, .group (by decide) (by decide) hitems⟩
  | map entries =>
    obtain ⟨n, hentries⟩ := Entries.pending entries
    exact ⟨_, (Pending.plain (isPlain_ofMark (by decide))).append
      (.group (by decide) (by decide) hentries)⟩
  | binary left op right =>
    obtain ⟨m, hleft⟩ := Term.pending left
    obtain ⟨n, hright⟩ := Term.pending right
    exact ⟨_, hleft.append (pending_space.append ((Pending.plain op.isPlain).append
      (pending_space.append hright)))⟩

/-- The pass rewrites the conditionals of an expression. -/
theorem Expression.pending (e : Expression) :
    ∃ n, Pending .expression n (e.tokens conditional) (e.tokens scriptConditional) := by
  cases e with
  | term t =>
    obtain ⟨n, ht⟩ := Term.pending t
    exact ⟨n, .operand (Term.lexed t).1 ht⟩
  | conditional c a b =>
    obtain ⟨i, hc⟩ := Term.pending c
    obtain ⟨j, ha⟩ := Expression.pending a
    obtain ⟨k, hb⟩ := Expression.pending b
    exact ⟨_, .choice (Term.lexed c).1 hc ha hb⟩

/-- The pass rewrites the conditionals of expressions in a row. -/
theorem Items.pending (items : Items) :
    ∃ n, Pending .items n (items.tokens conditional) (items.tokens scriptConditional) := by
  cases items with
  | nil => exact ⟨0, .none⟩
  | cons e rest =>
    obtain ⟨m, he⟩ := Expression.pending e
    obtain ⟨n, hrest⟩ := Items.pending rest
    cases rest with
    | nil => exact ⟨m, .item he⟩
    | cons e' rest => exact ⟨_, .comma (.item he) hrest⟩

/-- The pass rewrites the conditionals of expressions with keys in a row. -/
theorem Entries.pending (entries : Entries) :
    ∃ n, Pending .items n (entries.tokens conditional) (entries.tokens scriptConditional) := by
  cases entries with
  | nil => exact ⟨0, .none⟩
  | cons key e rest =>
    obtain ⟨m, he⟩ := Expression.pending e
    obtain ⟨n, hrest⟩ := Entries.pending rest
    cases rest with
    | nil => exact ⟨m, .keyed key.getLast?_ne he⟩
    | cons key' e' rest => exact ⟨_, .comma (.keyed key.getLast?_ne he) hrest⟩

end

end NavigationBar.Template
