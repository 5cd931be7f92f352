import NavigationBar.Decimal.Shortest

/-!
# How a double is written

All texts of doubles use the digits of `Binary.shortest`. They differ in when they turn to an
exponent and in the texts for what is not a finite number; a `Style` records those decisions.
-/

namespace NavigationBar.Decimal

/-- The decisions a written form of doubles makes. -/
structure Style where
  /-- Whether a finite magnitude with a given first decimal place is written with an exponent. -/
  exponential : Float → Scientific → Bool
  /-- Whether the sign of a negative zero is written. -/
  signedZero : Bool

/-- Positional digits of a decimal, with at least one place after the point. -/
def Scientific.positional (s : Scientific) : String :=
  let ds := Nat.toDigits 10 s.digits
  if s.exponent < 0 then
    let zeros := List.replicate ((-s.exponent).toNat - 1) '0'
    "0." ++ String.ofList (zeros ++ ds)
  else
    let whole := s.exponent.toNat + 1
    let head := ds.take whole ++ List.replicate (whole - ds.length) '0'
    let tail := ds.drop whole
    String.ofList head ++ "." ++ (if tail.isEmpty then "0" else String.ofList tail)

/-- A decimal with an exponent: `1e21`, `1.25e-7`. -/
def Scientific.withExponent (s : Scientific) : String :=
  let ds := Nat.toDigits 10 s.digits
  let tail := ds.drop 1
  String.ofList (ds.take 1) ++ (if tail.isEmpty then "" else "." ++ String.ofList tail)
    ++ "e" ++ toString s.exponent

/-- The text of a double in a style. -/
def Style.write (style : Style) (x : Float) : String :=
  match Binary.ofFloat? x with
  | none => if x.isNaN then "NaN" else if x < 0 then "-inf" else "inf"
  | some b =>
    let s := b.shortest
    let sign := if b.negative && (style.signedZero || b.mantissa != 0) then "-" else ""
    sign ++ (if style.exponential x s then s.withExponent else s.positional)

/-- The style of documents: positional from `0.00001` up to, and without, ten to the sixteenth. -/
def Style.document : Style where
  exponential := fun _ s => decide (s.exponent < -5 ∨ 15 < s.exponent)
  signedZero := true

/-- The style of type mismatch messages: always positional. -/
def Style.positional : Style where
  exponential := fun _ _ => false
  signedZero := true

/-- The bounds between which scripts write a double positionally: the single-precision numbers
nearest to ten to the thirteenth and to its inverse. -/
def scriptBounds : Float × Float :=
  (Float.ofBits 0x3D3C25C260000000, Float.ofBits 0x42A2309CE0000000)

/-- The style of scripts: an exponent outside of `scriptBounds`, and an unsigned zero. -/
def Style.script : Style where
  exponential := fun x s =>
    s.digits != 0 && (decide (x.abs < scriptBounds.1) || decide (scriptBounds.2 < x.abs))
  signedZero := false

/-- The style of values inside a list or a map of a script: positional from `0.0001` up to, and
without, ten to the sixteenth. -/
def Style.nested : Style where
  exponential := fun _ s => s.digits != 0 && decide (s.exponent < -4 ∨ 15 < s.exponent)
  signedZero := true

end NavigationBar.Decimal
