import NavigationBar.Script.Value

/-!
# Literals

Expressions that are literals through and through, and their values.
-/

namespace NavigationBar.Script

mutual

/-- Whether an expression is a literal through and through. -/
def Expr.isLiteral : Expr → Bool
  | .unit | .bool _ | .int _ | .float _ | .char _ | .text _ => true
  | .array items => areLiterals items
  | .map members => areLiteralMembers members
  | _ => false

/-- The same, for the elements of a list. -/
def areLiterals : List Expr → Bool
  | [] => true
  | e :: rest => e.isLiteral && areLiterals rest

/-- The same, for the members of a map. -/
def areLiteralMembers : List (String × Expr) → Bool
  | [] => true
  | (_, e) :: rest => e.isLiteral && areLiteralMembers rest

end

mutual

/-- The value of a literal. -/
def Expr.literalValue : Expr → Value
  | .bool b => .bool b
  | .int i => .int i
  | .float x => .float x
  | .char c => .char c
  | .text s => .text s
  | .array items => .array (literalValues items).toArray
  | .map members => .map (literalMembers members)
  | _ => .unit

/-- The values of the elements of a list. -/
def literalValues : List Expr → List Value
  | [] => []
  | e :: rest => e.literalValue :: literalValues rest

/-- The values of the members of a map. -/
def literalMembers : List (String × Expr) → List (String × Value)
  | [] => []
  | (k, e) :: rest => Value.insertMember k e.literalValue (literalMembers rest)

end

/-- The literal of a value that has no parts. -/
def Expr.ofValue? : Value → Option Expr
  | .unit => some .unit
  | .bool b => some (.bool b)
  | .int i => some (.int i)
  | .float x => some (.float x)
  | .char c => some (.char c)
  | .text s => some (.text s)
  | _ => none

/-- Whether an expression is a literal without parts. -/
def Expr.isAtom : Expr → Bool
  | .unit | .bool _ | .int _ | .float _ | .char _ | .text _ => true
  | _ => false

end NavigationBar.Script
