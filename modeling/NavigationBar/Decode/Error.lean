import NavigationBar.Decimal.Notation
import NavigationBar.Json.Basic
import NavigationBar.Text.Shown

/-!
# Why a value cannot be decoded

The causes for which a JSON value is refused as a value of some type, and their wording. The wording
of a mismatch shows the value that was found.
-/

namespace NavigationBar.Decode

/-- The value that was found, as far as a message shows it. -/
inductive Found where
  /-- A truth value. -/
  | bool (b : Bool)
  /-- An integer. -/
  | integer (i : Int)
  /-- A double. -/
  | float (x : Float)
  /-- A text. -/
  | text (s : String)
  /-- The absent value. -/
  | null
  /-- A list. -/
  | sequence
  /-- An object. -/
  | map
deriving DecidableEq

/-- What a message shows of a value. -/
def Found.ofJson : Json → Found
  | .null => null
  | .bool b => bool b
  | .int i => integer i
  | .float x => float x
  | .string s => text s
  | .array _ => sequence
  | .object _ => map

/-- The words for a value that was found. -/
def Found.words : Found → String
  | bool b => "boolean `" ++ (if b then "true" else "false") ++ "`"
  | integer i => "integer `" ++ toString i ++ "`"
  | float x => "floating point `" ++ Decimal.Style.positional.write x ++ "`"
  | text s => "string " ++ Text.shown s
  | null => "null"
  | sequence => "sequence"
  | map => "map"

/-- Why a value is refused. -/
inductive Error where
  /-- A value of another kind than the one expected. -/
  | invalidType (found : Found) (expected : String)
  /-- A value of the right kind that is out of range. -/
  | invalidValue (found : Found) (expected : String)
  /-- A list with too few or too many elements. -/
  | invalidLength (length : Nat) (expected : String)
  /-- A name that none of the alternatives has. -/
  | unknownVariant (name : String) (expected : List String)
  /-- An object without a key that it needs. -/
  | missingField (name : String)
  /-- A key that stands twice. -/
  | duplicateField (name : String)
  /-- A value that fits none of the alternatives of a type that has no names for them. -/
  | noVariant (type : String)
  /-- An action without a tag. -/
  | missingAction
  /-- One of the bar's own actions whose fields do not fit its tag. -/
  | invalidAction (tag : String) (cause : Error)
deriving DecidableEq

/-- The words for the names that were expected. -/
def alternatives (names : List String) : String :=
  let quoted := names.map fun n => "`" ++ n ++ "`"
  match quoted with
  | [] => "there are no variants"
  | [a] => "expected " ++ a
  | [a, b] => "expected " ++ a ++ " or " ++ b
  | all => "expected one of " ++ ", ".intercalate all

/-- The words for a refusal. -/
def Error.message : Error → String
  | invalidType found expected => "invalid type: " ++ found.words ++ ", expected " ++ expected
  | invalidValue found expected => "invalid value: " ++ found.words ++ ", expected " ++ expected
  | invalidLength length expected =>
    "invalid length " ++ toString length ++ ", expected " ++ expected
  | unknownVariant name expected => "unknown variant `" ++ name ++ "`, " ++ alternatives expected
  | missingField name => "missing field `" ++ name ++ "`"
  | duplicateField name => "duplicate field `" ++ name ++ "`"
  | noVariant type => "data did not match any variant of untagged enum " ++ type
  | missingAction => "action descriptor must have an \"action\" property"
  | invalidAction tag cause => "invalid \"" ++ tag ++ "\" action: " ++ cause.message

end NavigationBar.Decode
