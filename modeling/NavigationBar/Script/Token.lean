/-!
# Tokens of scripts

The words, literals and signs that a script is made of. A text with code in it is one token that
holds the tokens of that code.
-/

namespace NavigationBar.Script

/-- An operator between two operands. -/
inductive Operator where
  /-- `+` -/
  | add
  /-- `-` -/
  | sub
  /-- `*` -/
  | mul
  /-- `/` -/
  | div
  /-- `%` -/
  | rem
  /-- `**` -/
  | pow
  /-- `<<` -/
  | shiftLeft
  /-- `>>` -/
  | shiftRight
  /-- `&` -/
  | bitAnd
  /-- `|` -/
  | bitOr
  /-- `^` -/
  | bitXor
  /-- `==` -/
  | eq
  /-- `!=` -/
  | ne
  /-- `<` -/
  | lt
  /-- `<=` -/
  | le
  /-- `>` -/
  | gt
  /-- `>=` -/
  | ge
  /-- `&&` -/
  | and
  /-- `||` -/
  | or
  /-- `??` -/
  | coalesce
  /-- `..` -/
  | range
  /-- `..=` -/
  | rangeClosed
  /-- `in` -/
  | isIn
  /-- `!in` -/
  | isNotIn
deriving DecidableEq, Repr

namespace Operator

/-- How tightly an operator binds; a greater number binds tighter. -/
def precedence : Operator → Nat
  | or | bitOr | bitXor => 30
  | and | bitAnd => 60
  | eq | ne => 90
  | isIn | isNotIn => 110
  | lt | le | gt | ge => 130
  | coalesce => 135
  | range | rangeClosed => 140
  | add | sub => 150
  | mul | div | rem => 180
  | pow => 190
  | shiftLeft | shiftRight => 210

/-- Whether operators of the same precedence group to the right. -/
def isRightAssociative : Operator → Bool
  | pow => true
  | _ => false

/-- Whether an operator can be part of an assignment, as in `x += 1`. -/
def isAssignable : Operator → Bool
  | add | sub | mul | div | rem | pow => true
  | shiftLeft | shiftRight | bitAnd | bitOr | bitXor => true
  | _ => false

end Operator

/-- A word with a meaning of its own. -/
inductive Keyword where
  /-- `let` -/
  | letWord
  /-- `const` -/
  | constWord
  /-- `if` -/
  | ifWord
  /-- `else` -/
  | elseWord
  /-- `switch` -/
  | switchWord
  /-- `do` -/
  | doWord
  /-- `while` -/
  | whileWord
  /-- `until` -/
  | untilWord
  /-- `loop` -/
  | loopWord
  /-- `for` -/
  | forWord
  /-- `continue` -/
  | continueWord
  /-- `break` -/
  | breakWord
  /-- `return` -/
  | returnWord
  /-- `throw` -/
  | throwWord
  /-- `try` -/
  | tryWord
  /-- `catch` -/
  | catchWord
  /-- `fn` -/
  | fnWord
  /-- `true` -/
  | trueWord
  /-- `false` -/
  | falseWord
  /-- `this` -/
  | thisWord
deriving DecidableEq, Repr

/-- A sign that is neither a literal nor an operator. -/
inductive Sign where
  /-- `(` -/
  | openParen
  /-- `)` -/
  | closeParen
  /-- `[` -/
  | openBracket
  /-- `?[` -/
  | openSafeBracket
  /-- `]` -/
  | closeBracket
  /-- `#` and an opening brace -/
  | openMap
  /-- an opening brace -/
  | openBrace
  /-- a closing brace -/
  | closeBrace
  /-- `,` -/
  | comma
  /-- `:` -/
  | colon
  /-- `;` -/
  | semicolon
  /-- `.` -/
  | dot
  /-- `?.` -/
  | safeDot
  /-- `=>` -/
  | arrow
  /-- `!` -/
  | bang
  /-- `_` -/
  | underscore
deriving DecidableEq, Repr

/-- A token of a script. -/
inductive Token where
  /-- A name. -/
  | name (s : String)
  /-- The name of a function that nothing else may be called. -/
  | functionName (s : String)
  /-- A word with a meaning of its own. -/
  | keyword (k : Keyword)
  /-- A sign. -/
  | sign (s : Sign)
  /-- An operator. -/
  | operator (o : Operator)
  /-- The sign of an assignment, with the operator that is applied, if any. -/
  | assign (o : Option Operator)
  /-- An integer. -/
  | int (i : Int)
  /-- A double. -/
  | float (x : Float)
  /-- A character. -/
  | char (c : Char)
  /-- A text. -/
  | text (s : String)
  /-- A text with code in it: texts with the code after them, and the text at the end. -/
  | mixed (parts : List (String × List Token)) (last : String)

namespace Token

/-- The words with a meaning of their own. -/
def keywords : List (String × Keyword) :=
  [("let", .letWord), ("const", .constWord), ("if", .ifWord), ("else", .elseWord),
    ("switch", .switchWord), ("do", .doWord), ("while", .whileWord), ("until", .untilWord),
    ("loop", .loopWord), ("for", .forWord), ("continue", .continueWord), ("break", .breakWord),
    ("return", .returnWord), ("throw", .throwWord), ("try", .tryWord), ("catch", .catchWord),
    ("fn", .fnWord), ("true", .trueWord), ("false", .falseWord), ("this", .thisWord)]

/-- The names of functions that nothing else may be called. -/
def functionNames : List String :=
  ["print", "debug", "type_of", "eval", "Fn", "call", "curry", "is_def_var", "is_def_fn",
    "is_shared"]

/-- The names that may be used for nothing. -/
def reservedNames : List String :=
  ["private", "import", "export", "as", "public", "protected", "super", "new",
    "use", "module", "package", "var", "static", "shared", "with", "is", "goto", "exit", "match",
    "case", "default", "void", "null", "nil", "spawn", "thread", "go", "sync", "async", "await",
    "yield"]

/-- The token that a word is, if any: after its underscores a name goes on with a letter. -/
def ofWord? (s : String) : Option Token :=
  if s = "_" then some (.sign .underscore)
  else if s = "in" then some (.operator .isIn)
  else
    match keywords.lookup s with
    | some k => some (.keyword k)
    | none =>
      if reservedNames.contains s then none
      else if functionNames.contains s then some (.functionName s)
      else if (s.toList.dropWhile (· == '_')).head?.any Char.isAlpha then some (.name s)
      else none

/-- Whether a minus sign after a token stands in front of an operand. -/
def expectsOperand : Token → Bool
  | .keyword k =>
    match k with
    | .ifWord | .whileWord | .untilWord | .returnWord | .throwWord => true
    | _ => false
  | .sign s =>
    match s with
    | .closeParen | .closeBracket | .closeBrace | .dot | .safeDot | .underscore | .arrow => false
    | _ => true
  | .operator _ => true
  | .assign _ => true
  | _ => false

end Token

end NavigationBar.Script
