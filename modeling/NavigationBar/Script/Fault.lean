import NavigationBar.Script.Value

/-!
# Failures of scripts

Why a script is refused or ends without a value. A script may take over most failures itself; not
the ones that keep it within its limits.
-/

namespace NavigationBar.Script

/-- Why a script fails. -/
inductive Fault where
  /-- It is malformed. -/
  | malformed
  /-- It names a variable that there is not. -/
  | unknownVariable
  /-- It calls a function that there is not for such arguments. -/
  | unknownFunction
  /-- It asks a value for a property that the value cannot have. -/
  | noProperty
  /-- It asks for a number that there is not. -/
  | arithmetic
  /-- It has a value of a wrong type where a certain type is needed. -/
  | wrongType
  /-- It asks for an element that a list does not have. -/
  | listBounds
  /-- It asks for a character that a text does not have. -/
  | textBounds
  /-- It asks for a bit that an integer does not have. -/
  | bitBounds
  /-- It asks for an element of what has none. -/
  | noIndex
  /-- It loops over what has no elements. -/
  | notIterable
  /-- It changes a constant. -/
  | constant
  /-- It calls a method that changes a constant. -/
  | constantMethod
  /-- It names the object of a function that belongs to none. -/
  | noObject
  /-- It leaves a loop, or a round of one, where there is none. -/
  | noLoop
  /-- It throws a value. -/
  | thrown (v : Value)
  /-- It takes too many steps. -/
  | tooManySteps
  /-- It nests too many calls. -/
  | tooManyCalls
deriving Inhabited

namespace Fault

/-- The name of a failure. -/
def name : Fault → String
  | malformed => "ErrorParsing"
  | unknownVariable => "ErrorVariableNotFound"
  | unknownFunction => "ErrorFunctionNotFound"
  | noProperty => "ErrorDotExpr"
  | arithmetic => "ErrorArithmetic"
  | wrongType => "ErrorMismatchDataType"
  | listBounds => "ErrorArrayBounds"
  | textBounds => "ErrorStringBounds"
  | bitBounds => "ErrorBitFieldBounds"
  | noIndex => "ErrorIndexingType"
  | notIterable => "ErrorFor"
  | constant => "ErrorAssignmentToConstant"
  | constantMethod => "ErrorNonPureMethodCallOnConstant"
  | noObject => "ErrorUnboundThis"
  | noLoop => "LoopBreak"
  | thrown _ => "ErrorRuntime"
  | tooManySteps => "ErrorTooManyOperations"
  | tooManyCalls => "ErrorStackOverflow"

/-- Whether a script can take over a failure. -/
def isCatchable : Fault → Bool
  | malformed => false
  | tooManySteps => false
  | tooManyCalls => false
  | _ => true

/-- What a script gets to know about a failure that it takes over: the value that was thrown, or
else the name of the failure. -/
def caught : Fault → Value
  | thrown v => v
  | f => .map [("error", .text f.name)]

end Fault

end NavigationBar.Script
