import NavigationBar.Template.Lexis

/-!
# Conditionals

Scripts have no `c ? a : b`; the pass here turns each one into `(if c { a } else { b })`. It works
on a list of coarse tokens. The rightmost conditional goes first, so that nested ones unwind from
the inside, and the text is read anew after each: every round uses up one question mark.
-/

namespace NavigationBar.Template

/-- The kinds of tokens. -/
inductive TokenKind where
  /-- Blanks and comments. -/
  | trivia
  /-- A quoted text. -/
  | quoted
  /-- A run of word characters. -/
  | word
  /-- A single other character. -/
  | mark (c : Char)
deriving DecidableEq, Repr

/-- A token and the text it covers. -/
structure Token where
  /-- What the token is. -/
  kind : TokenKind
  /-- The characters it covers. -/
  text : List Char
deriving DecidableEq, Repr

/-- Reads the first token of a text that begins with the character `c`. -/
def Token.read (c : Char) (cs : List Char) : Token × List Char :=
  if Text.isBlank c ∨ (c = '/' ∧ (cs.head? = some '/' ∨ cs.head? = some '*')) then
    let (text, left) := triviaSpan (c :: cs)
    (⟨.trivia, text⟩, left)
  else if c = '"' ∨ c = '`' then
    let (text, left) := quotedSpan c cs
    (⟨.quoted, c :: text⟩, left)
  else if isWordChar c then
    let (text, left) := wordSpan cs
    (⟨.word, c :: text⟩, left)
  else (⟨.mark c, [c]⟩, cs)

theorem triviaSpan_length_lt {c : Char} {cs : List Char}
    (h : Text.isBlank c = true ∨ (c = '/' ∧ (cs.head? = some '/' ∨ cs.head? = some '*'))) :
    (triviaSpan (c :: cs)).2.length < (c :: cs).length := by
  generalize hl : c :: cs = l
  fun_cases triviaSpan l with
  | case1 => simp at hl
  | case2 rest cut text left hc =>
    have h₁ := triviaSpan_length cut.2
    rw [hc] at h₁
    have h₂ : cut.2.length ≤ rest.length := lineSpan_length rest
    simp only [List.length_cons] at h₁ ⊢
    omega
  | case3 rest cut text left hc =>
    have h₁ := triviaSpan_length cut.2
    rw [hc] at h₁
    have h₂ : cut.2.length ≤ rest.length := blockSpan_length rest
    simp only [List.length_cons] at h₁ ⊢
    omega
  | case4 d rest _ _ _ text left hc =>
    have h₁ := triviaSpan_length rest
    rw [hc] at h₁
    simp only [List.length_cons] at h₁ ⊢
    omega
  | case5 d rest h₁ h₂ hb =>
    exfalso
    obtain ⟨rfl, rfl⟩ := List.cons.inj hl
    rcases h with h | ⟨rfl, h | h⟩
    · exact hb h
    · cases cs with
      | nil => simp at h
      | cons e rest => exact h₁ rest rfl (by simpa using h)
    · cases cs with
      | nil => simp at h
      | cons e rest => exact h₂ rest rfl (by simpa using h)

theorem Token.read_length (c : Char) (cs : List Char) :
    (Token.read c cs).2.length < (c :: cs).length := by
  unfold Token.read
  split
  · rename_i h
    exact triviaSpan_length_lt h
  split
  · have := quotedSpan_length c cs
    simp only [List.length_cons]
    omega
  split
  · have := wordSpan_length cs
    simp only [List.length_cons]
    omega
  · simp

/-- The tokens of a text. -/
def tokens : List Char → List Token
  | [] => []
  | c :: cs => (Token.read c cs).1 :: tokens (Token.read c cs).2
termination_by cs => cs.length
decreasing_by exact Token.read_length c cs

/-- The text that a list of tokens covers. -/
def source (ts : List Token) : List Char :=
  ts.flatMap Token.text

/-- A token between the characters next to it. -/
structure Placed where
  /-- The character before the token. -/
  left : Option Char
  /-- The token. -/
  token : Token
  /-- The character after the token. -/
  right : Option Char
deriving DecidableEq, Repr

/-- The first character of the first token of a list. -/
def firstChar? : List Token → Option Char
  | [] => none
  | t :: _ => t.text.head?

/-- The tokens of a list that follows the character `left`, each between its neighbours. -/
def place (left : Option Char) : List Token → List Placed
  | [] => []
  | t :: ts => ⟨left, t, firstChar? ts⟩ :: place t.text.getLast? ts

namespace Placed

/-- Whether a token is a given mark. -/
def isMark (p : Placed) (c : Char) : Bool :=
  p.token.kind == .mark c

/-- Whether a token counts: blanks and comments do not. -/
def isSignificant (p : Placed) : Bool :=
  p.token.kind != .trivia

/-- Whether a token is the question mark of a conditional, and no part of `??`, `?.` or `?[`. -/
def isQuestion (p : Placed) : Bool :=
  p.isMark '?' && p.left != some '?' && !List.contains [some '?', some '.', some '['] p.right

/-- Whether a token is a colon, and no half of `::`. -/
def isColon (p : Placed) : Bool :=
  p.isMark ':' && p.left != some ':' && p.right != some ':'

/-- Whether a token is the equals sign of an assignment, plain or compound. -/
def isAssignment (p : Placed) : Bool :=
  p.isMark '=' && !List.contains [some '=', some '>'] p.right
    && !List.contains [some '=', some '!', some '<', some '>'] p.left

/-- Whether a token opens a bracket. -/
def isOpening (p : Placed) : Bool :=
  p.isMark '(' || p.isMark '[' || p.isMark '\x7b'

/-- Whether a token closes a bracket. -/
def isClosing (p : Placed) : Bool :=
  p.isMark ')' || p.isMark ']' || p.isMark '\x7d'

/-- The words that no condition reaches over. -/
def outerWords : List (List Char) :=
  ["return".toList, "throw".toList, "let".toList, "const".toList, "in".toList]

/-- Whether a condition that ends here begins after this token, which stands outside of brackets. -/
def endsCondition (p : Placed) : Bool :=
  p.isMark ',' || p.isMark ';' || p.isQuestion || p.isColon || p.isAssignment
    || (p.token.kind == .word && outerWords.contains p.token.text)

/-- Whether the last operand of a conditional ends before this token, which stands outside of
brackets. -/
def endsAlternative (p : Placed) : Bool :=
  p.isMark ',' || p.isMark ';' || p.isColon

end Placed

/-- The text that a list of placed tokens covers. -/
def covered (ps : List Placed) : List Char :=
  source (ps.map Placed.token)

/-- Cuts the tokens before a question mark, the nearest one first, into its condition and what is
before that. The condition reaches back to the nearest operator that binds looser or to the bracket
that encloses it; `depth` brackets are open. -/
def splitCondition (depth : Nat) : List Placed → List Placed × List Placed
  | [] => ([], [])
  | p :: ps =>
    if p.isClosing then
      let (cond, rest) := splitCondition (depth + 1) ps
      (p :: cond, rest)
    else if p.isOpening then
      match depth with
      | 0 => ([], p :: ps)
      | depth + 1 =>
        let (cond, rest) := splitCondition depth ps
        (p :: cond, rest)
    else if depth = 0 ∧ p.endsCondition then ([], p :: ps)
    else
      let (cond, rest) := splitCondition depth ps
      (p :: cond, rest)

/-- Cuts the tokens after a question mark at its colon, which is dropped. There is none when the
enclosing bracket or statement ends first. -/
def splitColon (depth : Nat) : List Placed → Option (List Placed × List Placed)
  | [] => none
  | p :: ps =>
    if p.isOpening then
      (splitColon (depth + 1) ps).map fun (inner, rest) => (p :: inner, rest)
    else if p.isClosing then
      match depth with
      | 0 => none
      | depth + 1 => (splitColon depth ps).map fun (inner, rest) => (p :: inner, rest)
    else if depth = 0 ∧ p.isMark ';' then none
    else if depth = 0 ∧ p.isColon then some ([], ps)
    else (splitColon depth ps).map fun (inner, rest) => (p :: inner, rest)

/-- Cuts the tokens after the colon of a conditional where its last operand ends. -/
def splitAlternative (depth : Nat) : List Placed → List Placed × List Placed
  | [] => ([], [])
  | p :: ps =>
    if p.isOpening then
      let (inner, rest) := splitAlternative (depth + 1) ps
      (p :: inner, rest)
    else if p.isClosing then
      match depth with
      | 0 => ([], p :: ps)
      | depth + 1 =>
        let (inner, rest) := splitAlternative depth ps
        (p :: inner, rest)
    else if depth = 0 ∧ p.endsAlternative then ([], p :: ps)
    else
      let (inner, rest) := splitAlternative depth ps
      (p :: inner, rest)

/-- The trivia in front of a list of tokens, and the rest. -/
def splitTrivia (ps : List Placed) : List Placed × List Placed :=
  (ps.takeWhile (!·.isSignificant), ps.dropWhile (!·.isSignificant))

/-- A list of tokens as the trivia around it and the tokens from the first to the last that counts.
-/
structure Operand where
  /-- The trivia before the operand. -/
  before : List Placed
  /-- The operand. -/
  inner : List Placed
  /-- The trivia after the operand. -/
  after : List Placed

/-- Splits a list of tokens into an operand and the trivia around it; none if all is trivia. -/
def operand? (ps : List Placed) : Option Operand :=
  let (before, rest) := splitTrivia ps
  let (after, inner) := splitTrivia rest.reverse
  if inner.isEmpty then none else some ⟨before, inner.reverse, after.reverse⟩

/-- Cuts a list of tokens at its last conditional question mark: the tokens before it, the nearest
one first, and the tokens after it. -/
def splitQuestion? (ps : List Placed) : Option (List Placed × List Placed) :=
  let after := ps.reverse.takeWhile (!·.isQuestion)
  match ps.reverse.dropWhile (!·.isQuestion) with
  | [] => none
  | _ :: before => some (before, after.reverse)

/-- A conditional inside a list of tokens. -/
structure Parts where
  /-- The tokens before the conditional. -/
  before : List Placed
  /-- Its condition. -/
  condition : List Placed
  /-- Its value when the condition holds. -/
  consequent : List Placed
  /-- Its value when the condition fails. -/
  alternative : List Placed
  /-- The tokens after the conditional. -/
  after : List Placed

/-- The last conditional of a list of tokens. -/
def parts? (ps : List Placed) : Option Parts := do
  let (left, right) ← splitQuestion? ps
  let (cond, before) := splitCondition 0 left
  let cond ← operand? cond.reverse
  let (cons, right) ← splitColon 0 right
  let cons ← operand? cons
  let (alt, after) := splitAlternative 0 right
  let alt ← operand? alt
  return {
    before := before.reverse ++ cond.before
    condition := cond.inner
    consequent := cons.inner
    alternative := alt.inner
    after := alt.after ++ after }

/-- The text around a conditional, with the conditional in the form that scripts have for it. -/
def Parts.toText (p : Parts) : List Char :=
  covered p.before ++ "(if ".toList ++ covered p.condition
    ++ " \x7b ".toList ++ covered p.consequent
    ++ " \x7d else \x7b ".toList ++ covered p.alternative ++ " \x7d)".toList ++ covered p.after

/-- A text without its last conditional, if it has one. -/
def eraseLast? (cs : List Char) : Option (List Char) :=
  (parts? (place none (tokens cs))).map Parts.toText

/-- A text without its last conditionals, at most `n` of them. -/
def eraseAtMost (cs : List Char) : Nat → List Char
  | 0 => cs
  | n + 1 =>
    match eraseLast? cs with
    | none => cs
    | some next => eraseAtMost next n

/-- A text without conditionals: each uses up a question mark, so there are no more of them. -/
def eraseConditionals (cs : List Char) : List Char :=
  eraseAtMost cs (cs.count '?')

end NavigationBar.Template
