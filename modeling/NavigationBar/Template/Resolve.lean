import NavigationBar.Template.Engine

/-!
# Fields that may be templates

The fields of a configuration hold plain values or templates for them. Drawing the bar never fails:
a failing template stands for itself, for a condition that does not hold, or for no number.
-/

namespace NavigationBar.Template

/-- Whether a value is a template. -/
def isTemplate (v : Json) : Bool :=
  v.string?.any fun s => isDelimited s.toList

/-- A value as text. -/
def displayText : Json → String
  | .null => ""
  | .string s => s
  | v => v.compact

/-- A value as a number; a text may hold one. -/
def numberOf? : Json → Option Float
  | .string s => Decimal.readFloat? (Text.trim s.toList)
  | v => v.float?

namespace Engine

/-- The value of a field. -/
def resolve (c : Context) (v : Json) : Session Json := do
  if isTemplate v then
    match ← evaluate c v .lenient with
    | .ok r => return r
    | .error _ => return v
  else return v

/-- The text of a field. -/
def resolveText (c : Context) (v : Json) : Session String := do
  return displayText (← resolve c v)

/-- Whether the condition in a field holds. -/
def resolveFlag (c : Context) (v : Json) : Session Bool := do
  if isTemplate v then
    match ← evaluate c v .strict with
    | .ok r => return r.isTruthy
    | .error _ => return false
  else return v.isTruthy

/-- The number in a field. -/
def resolveNumber (c : Context) (v : Json) : Session (Option Float) := do
  if isTemplate v then
    match ← evaluate c v .strict with
    | .ok r => return numberOf? r
    | .error _ => return none
  else return numberOf? v

end Engine

/-! ## Without a cache

What an engine keeps never changes what it answers, so an answer can be asked of a new one.
-/

/-- The value of a field. -/
def resolve (c : Context) (v : Json) : Json :=
  (Engine.resolve c v {}).1

/-- The text of a field. -/
def resolveText (c : Context) (v : Json) : String :=
  (Engine.resolveText c v {}).1

/-- Whether the condition in a field holds. -/
def resolveFlag (c : Context) (v : Json) : Bool :=
  (Engine.resolveFlag c v {}).1

/-- The value of a template. -/
def evaluate (c : Context) (v : Json) (o : Options) : Except Failure Json :=
  (Engine.evaluate c v o {}).1

/-- The value of a template as a value of a type. -/
def evaluateAs {α : Type} (d : Decode.Decoder α) (c : Context) (v : Json) : Except Failure α :=
  (Engine.evaluateAs d c v {}).1

/-- Whether the expression of a badge holds. -/
def badgeHolds (c : Context) (expression : String) : Bool :=
  (Engine.badgeHolds c expression {}).1

end NavigationBar.Template
