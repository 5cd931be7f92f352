import NavigationBar.Script.Syntax

/-!
# Purity

What can be left out of a script because it shows nowhere. Constants and variables are pure, so that
a variable that there is not is a failure only where its value is asked for; anything put together
from variables has to be run. A new variable shows only to the statements after it in its block.
-/

namespace NavigationBar.Script

mutual

/-- Whether the value of an expression is known. -/
def Expr.isConstant : Expr → Bool
  | .unit | .bool _ | .int _ | .float _ | .char _ | .text _ => true
  | .mixed parts => areConstant parts
  | .array items => areConstant items
  | .map members => areConstantMembers members
  | .closure _ captured _ => captured.isEmpty
  | _ => false

/-- The same, for all elements of a list. -/
def areConstant : List Expr → Bool
  | [] => true
  | e :: rest => e.isConstant && areConstant rest

/-- The same, for all members of a map. -/
def areConstantMembers : List (String × Expr) → Bool
  | [] => true
  | (_, e) :: rest => e.isConstant && areConstantMembers rest

end

mutual

/-- Whether an expression is pure. -/
def Expr.isPure : Expr → Bool
  | .variable _ => true
  | .binary .range (.int _) (.int _) => true
  | .binary .rangeClosed (.int _) (.int _) => true
  | .statement s => s.isPure
  | e => e.isConstant

/-- Whether a statement is pure. A `switch` never is. -/
def Stmt.isPure : Stmt → Bool
  | .skip => true
  | .expr e => e.isPure
  | .block body => arePure body
  | .choose c yes no => c.isPure && arePure yes && arePure no
  | .forEach _ _ items body => items.isPure && arePure body
  | .attempt body _ handler => arePure body && arePure handler
  | _ => false

/-- Whether all statements of a block are pure. -/
def arePure : List Stmt → Bool
  | [] => true
  | s :: rest => s.isPure && arePure rest

end

namespace Stmt

/-- Whether a statement shows nowhere outside its block. -/
def isLocal : Stmt → Bool
  | declare _ _ init => init.isPure
  | s => s.isPure

/-- Whether a statement does nothing at all. -/
def isConstant : Stmt → Bool
  | skip => true
  | expr e => e.isConstant
  | _ => false

/-- Whether a statement may have a value other than the absent one. -/
def hasValue : Stmt → Bool
  | expr _ | block _ | choose .. | switch .. => true
  | _ => false

/-- Whether a statement ends the block that it is in. -/
def isExit : Stmt → Bool
  | leave _ | next | give _ | fail _ => true
  | _ => false

end Stmt

/-- The statements of a block up to the first one that ends it. -/
def reached : List Stmt → List Stmt
  | [] => []
  | s :: rest => if s.isExit then [s] else s :: reached rest

/-- The statements of a block that have to be run. `keep` tells whether the value of the last one is
kept, and `nested` whether the variables of the block end with it. -/
def needed (keep nested : Bool) : List Stmt → List Stmt
  | [] => []
  | s :: rest =>
    if keep && rest.isEmpty then
      if s.hasValue || !(s.isPure || (nested && s.isLocal)) then [s] else [.skip]
    else
      let rest := needed keep nested rest
      if s.isPure || (nested && s.isLocal && rest.all Stmt.isConstant) then rest else s :: rest

/-- A block without what need not be run. -/
def tidy (keep nested : Bool) (body : List Stmt) : List Stmt :=
  let body := needed keep nested (reached body)
  if body.all Stmt.isSkip then [] else body

end NavigationBar.Script
