import NavigationBar.Script.Token

/-!
# The syntax of scripts

Expressions and statements. A statement may stand where an expression is expected, and has the value
of what it does last. A property, an index or a method call is a link of a chain, whose root it
follows; a safe link ends the chain when there is nothing to go on with.
-/

namespace NavigationBar.Script

/-- A case of a `switch`, as far as it is known without evaluating anything. -/
inductive Pattern (ε : Type) where
  /-- A literal. -/
  | literal (e : ε)
  /-- The integers from one up to another, which belongs to them if `closed`. -/
  | range (low high : Int) (closed : Bool)

mutual

/-- An expression. -/
inductive Expr where
  /-- The absent value. -/
  | unit
  /-- A truth value. -/
  | bool (b : Bool)
  /-- An integer. -/
  | int (i : Int)
  /-- A double. -/
  | float (x : Float)
  /-- A character. -/
  | char (c : Char)
  /-- A text. -/
  | text (s : String)
  /-- A text put together from the values of expressions. -/
  | mixed (parts : List Expr)
  /-- A list. -/
  | array (items : List Expr)
  /-- A map. -/
  | map (members : List (String × Expr))
  /-- A variable. -/
  | variable (name : String)
  /-- The object that a function belongs to. -/
  | this
  /-- A call of a function by its name. -/
  | call (name : String) (args : List Expr)
  /-- An operator in front of its operand: `-`, `+` or `!`. -/
  | unary (name : String) (operand : Expr)
  /-- An operator between its operands. -/
  | binary (op : Operator) (left right : Expr)
  /-- Expressions with `??` between them: the first value that is not the absent one. -/
  | firstOf (items : List Expr)
  /-- A chain of links from a root. -/
  | chain (root : Expr) (links : List Link)
  /-- A statement in place of an expression. -/
  | statement (s : Stmt)
  /-- A function without a name. It keeps the variables around it that its body names. -/
  | closure (params : List String) (captured : List String) (body : Stmt)

/-- A link of a chain. -/
inductive Link where
  /-- A property. -/
  | property (safe : Bool) (name : String)
  /-- An element. -/
  | index (safe : Bool) (i : Expr)
  /-- A method call. -/
  | method (safe : Bool) (name : String) (args : List Expr)

/-- A case of a `switch` with its guard; no pattern at all is the default case. -/
inductive Case where
  /-- The case of some patterns. -/
  | mk (patterns : List (Pattern Expr)) (guard : Option Expr) (body : Stmt)

/-- A statement. -/
inductive Stmt where
  /-- Nothing. -/
  | skip
  /-- An expression, for its value or its effects. -/
  | expr (e : Expr)
  /-- A new variable, or a constant. -/
  | declare (isConst : Bool) (name : String) (init : Expr)
  /-- An assignment to a variable or to a place in its value. -/
  | assign (name : String) (links : List Link) (op : Option Operator) (value : Expr)
  /-- Statements with variables of their own. -/
  | block (body : List Stmt)
  /-- One of two blocks. -/
  | choose (condition : Expr) (yes no : List Stmt)
  /-- One of several cases. -/
  | switch (subject : Expr) (cases : List Case)
  /-- A block that is repeated while a condition holds, or for ever. -/
  | repeatWhile (condition : Option Expr) (body : List Stmt)
  /-- A block that is repeated after it was run, while a condition has some truth value. -/
  | runThenRepeat (body : List Stmt) (condition : Expr) (on : Bool)
  /-- A block that is repeated for every element, which may be counted too. -/
  | forEach (name : String) (counter : Option String) (items : Expr) (body : List Stmt)
  /-- The end of a loop. -/
  | leave (value : Option Expr)
  /-- The end of one round of a loop. -/
  | next
  /-- The end of a function. -/
  | give (value : Option Expr)
  /-- A failure. -/
  | fail (value : Option Expr)
  /-- A block whose failure another block takes over. -/
  | attempt (body : List Stmt) (name : Option String) (handler : List Stmt)

end

instance : Inhabited Expr := ⟨.unit⟩

instance : Inhabited Stmt := ⟨.skip⟩

/-- A function with a name. -/
structure Function where
  /-- Its name. -/
  name : String
  /-- Its parameters. -/
  params : List String
  /-- Its body. -/
  body : List Stmt

/-- A script: functions, and statements that are run before any of them is called. -/
structure Program where
  /-- The functions. -/
  functions : List Function := []
  /-- The statements. -/
  body : List Stmt := []

namespace Stmt

/-- Whether no semicolon is needed after a statement. -/
def isSelfTerminated : Stmt → Bool
  | choose .. | switch .. | block _ | repeatWhile .. | forEach .. | attempt .. => true
  | _ => false

/-- Whether a statement makes a variable for the statements after it. -/
def isDeclaration : Stmt → Bool
  | declare .. => true
  | _ => false

/-- Whether a statement is nothing. -/
def isSkip : Stmt → Bool
  | skip => true
  | _ => false

/-- The statements of a block, or a statement by itself. -/
def toBlock : Stmt → List Stmt
  | block body => body
  | skip => []
  | s => [s]

end Stmt

end NavigationBar.Script
