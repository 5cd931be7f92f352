import NavigationBar.Decimal.Power

/-!
# Doubles as exact numbers

A finite double is `± mantissa * 2 ^ exponent`. Everything that has to be exact about doubles (their
decimal text, reading them, cutting off their fraction, the remainder of a division) is computed on
that pair in `Nat` and `Int`.
-/

namespace NavigationBar.Decimal

/-- The exact value of a finite double: `mantissa * 2 ^ exponent`, negated when `negative`. -/
structure Binary where
  /-- The sign; a negative zero has it too. -/
  negative : Bool
  /-- The significand, below `2 ^ 53`. -/
  mantissa : Nat
  /-- The power of two that the significand counts. -/
  exponent : Int
deriving DecidableEq, Repr

namespace Binary

/-- The exponent of the subnormal doubles and of the lowest normal ones. -/
def lowestExponent : Int := -1074

/-- The exact value of a double, none for an infinity and for not-a-number. -/
def ofFloat? (x : Float) : Option Binary :=
  let bits : Nat := x.toBits.toNat
  let field : Nat := bits / twoTo 52 % twoTo 11
  let fraction : Nat := bits % twoTo 52
  let negative := decide (twoTo 63 ≤ bits)
  if field = 2047 then none
  else if field = 0 then some ⟨negative, fraction, lowestExponent⟩
  else some ⟨negative, twoTo 52 + fraction, (field : Int) - 1075⟩

/-- The double with a given sign whose magnitude is `significand * 2 ^ exponent`. The significand is
either at least `2 ^ 52`, or counts multiples of the lowest exponent. -/
def toFloat (negative : Bool) (significand : Nat) (exponent : Int) : Float :=
  let magnitude := (exponent - lowestExponent).toNat * twoTo 52 + significand
  let magnitude := min magnitude (2047 * twoTo 52)
  Float.ofBits (UInt64.ofNat (if negative then twoTo 63 + magnitude else magnitude))

/-- The magnitude as a fraction of two natural numbers. -/
def ratio (b : Binary) : Nat × Nat :=
  if 0 ≤ b.exponent then (b.mantissa * twoTo b.exponent.toNat, 1)
  else (b.mantissa, twoTo (-b.exponent).toNat)

/-- The value without its fraction. -/
def truncated (b : Binary) : Int :=
  let (num, den) := b.ratio
  if b.negative then -(num / den : Nat) else (num / den : Nat)

end Binary

/-- A quotient rounded to the nearest natural number, a half going to the even neighbour. -/
def roundedQuotient (num den : Nat) : Nat :=
  let q := num / den
  let r := num % den
  if 2 * r < den then q
  else if den < 2 * r then q + 1
  else if q % 2 = 0 then q else q + 1

/-- The double nearest to `num / den`, with a given sign; a tie goes to the even significand. -/
def nearestRatio (negative : Bool) (num den : Nat) : Float :=
  if num = 0 then Binary.toFloat negative 0 Binary.lowestExponent
  else
    let guess : Int := (num.log2 : Int) - den.log2 - 53
    let scaled (e : Int) : Nat × Nat :=
      if 0 ≤ e then (num, den * twoTo e.toNat) else (num * twoTo (-e).toNat, den)
    let tooFine (e : Int) : Bool := let (n, d) := scaled e; decide (twoTo 53 ≤ n / d)
    let e := if tooFine guess then guess + 1 else guess
    let e := max e Binary.lowestExponent
    let (n, d) := scaled e
    Binary.toFloat negative (roundedQuotient n d) e

/-- The double nearest to `digits * 10 ^ exponent`, with a given sign. -/
def nearest (negative : Bool) (digits : Nat) (exponent : Int) : Float :=
  let size : Int := (Nat.toDigits 10 digits).length + exponent
  if digits = 0 ∨ size < -400 then nearestRatio negative 0 1
  else if 400 < size then nearestRatio negative (tenTo 400) 1
  else if 0 ≤ exponent then nearestRatio negative (digits * tenTo exponent.toNat) 1
  else nearestRatio negative digits (tenTo (-exponent).toNat)

/-- The remainder of the division of two doubles, cut toward zero: it has the sign of the dividend
and is exact. It is not-a-number when the divisor is zero or the dividend infinite. -/
def remainder (x y : Float) : Float :=
  match Binary.ofFloat? x, Binary.ofFloat? y with
  | some a, some b =>
    if b.mantissa = 0 then 0.0 / 0.0
    else
      let (an, ad) := a.ratio
      let (bn, bd) := b.ratio
      nearestRatio a.negative (an * bd % (bn * ad)) (ad * bd)
  | some _, none => if y.isNaN then y else x
  | none, _ => 0.0 / 0.0

end NavigationBar.Decimal
