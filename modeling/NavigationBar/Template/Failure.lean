import NavigationBar.Decode.Error
import NavigationBar.Json.Printer
import NavigationBar.Script.Fault

/-!
# Failures of templates

Why a template has no value, or none of the type that was asked for.
-/

namespace NavigationBar.Template

/-- Why a template has no value of the type that was asked for. -/
inductive Failure where
  /-- The value is no template. -/
  | notTemplate (v : Json)
  /-- The script fails. -/
  | script (f : Script.Fault)
  /-- The script returns nothing. -/
  | noValue
  /-- The script returns what is no JSON value. -/
  | notJson
  /-- The value that the script returns is of another type. -/
  | shape (e : Decode.Error)

namespace Failure

/-- The words for a failure. Of a script only the name of its failure is told, and a value that it
throws. -/
def message : Failure → String
  | notTemplate v => "value is not a template: " ++ v.compact
  | script (.thrown v) => (Script.Fault.thrown v).name ++ ": " ++ v.plainText
  | script f => f.name
  | noValue => "template did not return a value"
  | notJson => "not a JSON value"
  | shape e => "template result has unexpected shape: " ++ e.message

/-- Whether the template returns nothing. -/
def isNoValue : Failure → Bool
  | noValue => true
  | _ => false

end Failure

end NavigationBar.Template
