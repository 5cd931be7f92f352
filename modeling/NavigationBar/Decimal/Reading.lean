import NavigationBar.Decimal.Binary
import NavigationBar.Text.Digit

/-!
# Reading a double from text

The accepted texts are an optional sign followed by `inf`, `infinity` or `nan` in any case, or by
decimal digits with an optional point among them and an optional exponent. The result is the double
nearest to the decimal.
-/

namespace NavigationBar.Decimal

/-- The value of a run of decimal digits. -/
def digitsValue (ds : List Char) : Nat :=
  ds.foldl (fun n d => n * 10 + Text.decimalDigit d) 0

/-- The sign in front of a number, and the rest. -/
def splitSign : List Char → Bool × List Char
  | '-' :: r => (true, r)
  | '+' :: r => (false, r)
  | r => (false, r)

/-- The value of an exponent after its mark; none when it has no digit or is followed by anything.
-/
def readExponent? (cs : List Char) : Option Int :=
  let (negative, ds) := splitSign cs
  if ds.isEmpty || ds.any (fun c => !c.isDigit) then none
  else
    let n : Int := digitsValue ds
    some (if negative then -n else n)

/-- The double that an unsigned decimal denotes, with a given sign. -/
def readDecimal? (negative : Bool) (cs : List Char) : Option Float :=
  let whole := cs.takeWhile Char.isDigit
  let rest := cs.dropWhile Char.isDigit
  let (fraction, rest) := match rest with
    | '.' :: r => (r.takeWhile Char.isDigit, r.dropWhile Char.isDigit)
    | r => ([], r)
  if whole.isEmpty && fraction.isEmpty then none
  else
    let exponent? : Option Int := match rest with
      | [] => some 0
      | 'e' :: r => readExponent? r
      | 'E' :: r => readExponent? r
      | _ => none
    exponent?.map fun e =>
      nearest negative (digitsValue (whole ++ fraction)) (e - (fraction.length : Int))

/-- The double that a text denotes. -/
def readFloat? (cs : List Char) : Option Float :=
  let (negative, body) := splitSign cs
  let name := String.ofList (body.map Char.toLower)
  if name = "inf" ∨ name = "infinity" then some (if negative then -1.0 / 0.0 else 1.0 / 0.0)
  else if name = "nan" then some (0.0 / 0.0)
  else readDecimal? negative body

end NavigationBar.Decimal
