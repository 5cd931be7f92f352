/-!
# Digits

The digits of numbers in a base of up to 36: first the decimal digits, then the letters in either
case.
-/

namespace NavigationBar.Text

/-- The value of a decimal digit. -/
def decimalDigit (c : Char) : Nat :=
  c.toNat - '0'.toNat

/-- The value of a character as a digit, where every digit or letter is one. -/
def anyDigit? (c : Char) : Option Nat :=
  if c.isDigit then some (decimalDigit c)
  else if c.isLower then some (c.toNat - 'a'.toNat + 10)
  else if c.isUpper then some (c.toNat - 'A'.toNat + 10)
  else none

/-- The value of a digit in a base. -/
def digit? (base : Nat) (c : Char) : Option Nat :=
  (anyDigit? c).filter (· < base)

/-- The value of digits in a base, the first one being the highest. -/
def digitsValue? (base : Nat) (ds : List Char) : Option Nat :=
  ds.foldlM (fun n c => (digit? base c).map (n * base + ·)) 0

end NavigationBar.Text
