import NavigationBar.Script.Arithmetic
import NavigationBar.Script.Literal

/-!
# The selection of a case

Which cases of a `switch` fit a value. Cases with literals come before cases with ranges, whatever
their order, and among cases of one kind the first one comes first. A case with a guard is selected
only if the guard holds, and the default case only if no other one is.
-/

namespace NavigationBar.Script

/-- Whether a number lies in a range of integers. -/
def Value.liesIn (low high : Int) (closed : Bool) : Value → Bool
  | .int i => decide (low ≤ i ∧ (i < high ∨ (closed = true ∧ i = high)))
  | .float x =>
    decide (floatOfInt low ≤ x) &&
      (decide (x < floatOfInt high) || (closed && x == floatOfInt high))
  | _ => false

namespace Pattern

/-- Whether a pattern is a literal that a value is. -/
def isValue (v : Value) : Pattern Expr → Bool
  | literal e => v.matchesCase e.literalValue
  | range .. => false

/-- Whether a pattern is a range that a value lies in. -/
def covers (v : Value) : Pattern Expr → Bool
  | literal _ => false
  | range low high closed => v.liesIn low high closed

/-- Whether a pattern is a range that some integer lies in. -/
def isRange : Pattern Expr → Bool
  | literal _ => false
  | range low high closed => decide (low < high) || (closed && low == high)

/-- Whether a pattern is a number. -/
def isNumber : Pattern Expr → Bool
  | literal (.int _) | literal (.float _) => true
  | _ => false

end Pattern

namespace Case

/-- The patterns of a case. -/
def patterns : Case → List (Pattern Expr)
  | mk patterns _ _ => patterns

/-- The guard of a case. -/
def guard? : Case → Option Expr
  | mk _ guard _ => guard

/-- The body of a case. -/
def body : Case → Stmt
  | mk _ _ body => body

/-- Whether a case is the default case. -/
def isDefault (c : Case) : Bool :=
  c.patterns.isEmpty

/-- Whether one of the literals of a case is a value. -/
def hasValue (v : Value) (c : Case) : Bool :=
  c.patterns.any (Pattern.isValue v)

/-- Whether a value lies in one of the ranges of a case. -/
def covers (v : Value) (c : Case) : Bool :=
  c.patterns.any (Pattern.covers v)

/-- Whether a case is selected as soon as it fits. -/
def isUnguarded (c : Case) : Bool :=
  match c.guard? with
  | none => true
  | some (.bool b) => b
  | some _ => false

end Case

/-- The body of the default case. -/
def defaultBody? (cases : List Case) : Option Stmt :=
  (cases.find? Case.isDefault).map Case.body

/-- The cases that fit a value, in the order in which their guards are asked. -/
def fittingCases (v : Value) (cases : List Case) : List Case :=
  cases.filter (Case.hasValue v) ++ cases.filter (Case.covers v)

end NavigationBar.Script
