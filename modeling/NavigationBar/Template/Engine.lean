import NavigationBar.Decode.Basic
import NavigationBar.Script.Evaluator
import NavigationBar.Template.Cache
import NavigationBar.Template.Context
import NavigationBar.Template.Delimiter
import NavigationBar.Template.Failure
import NavigationBar.Template.Normal

/-!
# The template engine

A template is compiled into a function of what templates see, and the function is called. What was
compiled is kept in a cache under a digest of the body of its template. Badges may have an
expression over the entities instead, without delimiters and without `return`.
-/

namespace NavigationBar.Template

/-- The function that a template is compiled into. -/
def functionName : String := "template"

/-- The function that the expression of a badge is compiled into. -/
def badgeFunctionName : String := "legacy_badge"

/-- The script of a template. Its body is a block whose value is dropped, so only `return` gives
one. -/
def scriptOf (body : List Char) : List Char :=
  ("fn " ++ functionName ++ "(states, user, hass, navbar) \x7b\n\x7b\n").toList ++ normalize body
    ++ "\n\x7d\n()\n\x7d".toList

/-- The script of the expression of a badge. -/
def badgeScriptOf (body : List Char) : List Char :=
  ("fn " ++ badgeFunctionName ++ "(states) \x7b\nreturn ").toList ++ normalize body
    ++ "\n\x7d".toList

/-- How a failure is treated. -/
structure Options where
  /-- A failing template stands for itself. -/
  safe : Bool := false
  /-- A template that returns nothing has the value `null`. -/
  mayReturnNothing : Bool := false
deriving DecidableEq, Repr

namespace Options

/-- Every failure is one. -/
def strict : Options := {}

/-- A failing template stands for itself. -/
def lenient : Options := { safe := true }

/-- A template is run for its effects. -/
def statement : Options := { mayReturnNothing := true }

end Options

/-- The engine: what it has compiled. -/
structure Engine where
  /-- The digest of a text. -/
  digest : String → UInt64 := hash
  /-- The programs by the digests of what they were made from. -/
  cache : Cache UInt64 Script.Program := {}
deriving Inhabited

/-- An activity of the engine. -/
abbrev Session := StateM Engine

namespace Engine

/-- An engine without compiled programs. -/
def ofPolicy (policy : CachePolicy) : Engine :=
  { cache := { policy } }

/-- The text whose digest is the key of a template's program. -/
def keyOf (body : List Char) : String :=
  String.ofList body

/-- The text whose digest is the key of the program of a badge's expression. -/
def badgeKeyOf (body : List Char) : String :=
  badgeFunctionName ++ "\x00" ++ String.ofList body

/-- The program under the digest of a text, compiled if it is not kept. -/
def program (text : String) (source : Unit → List Char) :
    Session (Except Script.Fault Script.Program) := fun e =>
  let (result, cache) := e.cache.getOrMake (e.digest text) fun () =>
    Script.Program.ofScript (source ())
  (result, { e with cache })

/-- Drops all programs. -/
def clear : Session Unit :=
  modify fun e => { e with cache := e.cache.clear }

/-- What a value that a script returns is as a JSON value. -/
def resultOf : Except Script.Fault Script.Value → Except Failure Json
  | .error f => .error (.script f)
  | .ok .unit => .error .noValue
  | .ok v =>
    match v.toJson? with
    | some j => .ok j
    | none => .error .notJson

/-- The value of a template, every failure being one. -/
def evaluateStrict (c : Context) (v : Json) : Session (Except Failure Json) := do
  match v.string?.bind fun s => body? s.toList with
  | none => return .error (.notTemplate v)
  | some body =>
    match ← program (keyOf body) fun () => scriptOf body with
    | .error f => return .error (.script f)
    | .ok p => return resultOf (p.call functionName c.args)

/-- The value of a template. -/
def evaluate (c : Context) (v : Json) (o : Options) : Session (Except Failure Json) := do
  match ← evaluateStrict c v with
  | .ok r => return .ok r
  | .error e =>
    if o.mayReturnNothing && e.isNoValue then return .ok .null
    else if o.safe then return .ok v
    else return .error e

/-- The value of a template as a value of a type. -/
def evaluateAs {α : Type} (d : Decode.Decoder α) (c : Context) (v : Json) :
    Session (Except Failure α) := do
  match ← evaluateStrict c v with
  | .ok r => return (d .document r).mapError .shape
  | .error e => return .error e

/-- Whether the expression of a badge holds; it does not if it fails. -/
def badgeHolds (c : Context) (expression : String) : Session Bool := do
  let body := Text.trim expression.toList
  match ← program (badgeKeyOf body) fun () => badgeScriptOf body with
  | .error _ => return false
  | .ok p =>
    match p.call badgeFunctionName [c.states] with
    | .error _ => return false
    | .ok v => return v.toJson?.any Json.isTruthy

end Engine

end NavigationBar.Template
