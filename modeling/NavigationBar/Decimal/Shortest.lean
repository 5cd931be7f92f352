import NavigationBar.Decimal.Binary

/-!
# The shortest decimal of a double

Of all decimals that read back as a given double, the ones with the fewest digits, and of those the
one nearest to the double. For one, two, … digits the two neighbours of the double on that decimal
grid are tried; the first grid on which one of them lies inside the rounding interval gives the
answer.
-/

namespace NavigationBar.Decimal

/-- A decimal in scientific form: the digits `d₁d₂…dₙ` stand for `d₁.d₂…dₙ * 10 ^ exponent`. -/
structure Scientific where
  /-- The digits as a natural number. -/
  digits : Nat
  /-- The power of ten of the first digit. -/
  exponent : Int
deriving DecidableEq, Repr

/-- The number of times a fraction below one has to be multiplied by ten to reach one. -/
def leadingZeros (num den : Nat) : Nat → Nat
  | 0 => 0
  | fuel + 1 => if den ≤ num then 0 else leadingZeros (num * 10) den fuel + 1

/-- The power of ten of the first digit of a positive fraction. -/
def decade (num den : Nat) : Int :=
  if den ≤ num then ((Nat.toDigits 10 (num / den)).length : Int) - 1
  else -(leadingZeros num den 400 : Int)

/-- The numbers that round to a double, as the fractions with a common denominator between `low`
and `high`; both ends belong to it when `closed`. -/
structure Interval where
  /-- Numerator of the lower end. -/
  low : Nat
  /-- Numerator of the double itself. -/
  mid : Nat
  /-- Numerator of the upper end. -/
  high : Nat
  /-- The common denominator. -/
  den : Nat
  /-- Whether the ends round to the double too. -/
  closed : Bool

/-- The interval of a double. Below a power of two the neighbour is twice as near. -/
def Binary.interval (b : Binary) : Interval :=
  let below := if b.mantissa = twoTo 52 ∧ lowestExponent < b.exponent then 1 else 2
  let scale := if 0 ≤ b.exponent then twoTo b.exponent.toNat else 1
  let den := if 0 ≤ b.exponent then 4 else 4 * twoTo (-b.exponent).toNat
  { low := (4 * b.mantissa - below) * scale
    mid := 4 * b.mantissa * scale
    high := (4 * b.mantissa + 2) * scale
    den := den
    closed := b.mantissa % 2 == 0 }

/-- Whether `k * 10 ^ unit` lies in an interval. -/
def Interval.holds (i : Interval) (k : Nat) (unit : Int) : Bool :=
  let point := if 0 ≤ unit then k * tenTo unit.toNat * i.den else k * i.den
  let scale := if 0 ≤ unit then 1 else tenTo (-unit).toNat
  if i.closed then decide (i.low * scale ≤ point ∧ point ≤ i.high * scale)
  else decide (i.low * scale < point ∧ point < i.high * scale)

/-- The better of the two grid points around the middle of an interval, if one lies inside. -/
def Interval.onGrid? (i : Interval) (unit : Int) : Option Nat :=
  let num := if 0 ≤ unit then i.mid else i.mid * tenTo (-unit).toNat
  let den := if 0 ≤ unit then i.den * tenTo unit.toNat else i.den
  let k := num / den
  let up := decide (den ≤ 2 * (num % den))
  let (first, second) := if up then (k + 1, k) else (k, k + 1)
  if i.holds first unit then some first
  else if i.holds second unit then some second
  else none

/-- The first grid, from `n` digits on, with a point inside the interval. -/
def Interval.search (i : Interval) (top : Int) (n : Nat) : Nat → Nat × Int
  | 0 => (0, 0)
  | fuel + 1 =>
    let unit := top - n + 1
    match i.onGrid? unit with
    | some k => (k, unit)
    | none => i.search top (n + 1) fuel

/-- A number without the zeros it ends with, and their count. -/
def dropZeros (n : Nat) : Nat → Nat × Nat
  | 0 => (n, 0)
  | fuel + 1 =>
    if n ≠ 0 ∧ n % 10 = 0 then
      let (m, z) := dropZeros (n / 10) fuel
      (m, z + 1)
    else (n, 0)

/-- The shortest decimal that reads back as the magnitude of a double. -/
def Binary.shortest (b : Binary) : Scientific :=
  if b.mantissa = 0 then ⟨0, 0⟩
  else
    let i := b.interval
    let (k, unit) := i.search (decade i.mid i.den) 1 20
    let (digits, zeros) := dropZeros k 20
    ⟨digits, unit + zeros + (Nat.toDigits 10 digits).length - 1⟩

end NavigationBar.Decimal
