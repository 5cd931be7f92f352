import NavigationBar.Script.Token

/-!
# Closeness of doubles

Comparisons that allow for the rounding of doubles. Two doubles count as equal if they are no
further apart than `1.0` is from the next double, whatever their size. Infinity is not close to
itself, as it has no distance to itself.
-/

namespace NavigationBar.Script

/-- How far apart two doubles that count as equal may be: `2 ^ -52`. -/
def tolerance : Float :=
  2.220446049250313e-16

/-- Whether two doubles count as equal. -/
def areClose (x y : Float) : Bool :=
  decide ((x - y).abs ≤ tolerance)

/-- A comparison of two doubles, where close ones count as equal; none for an operator that is no
comparison. -/
def closeComparison? (op : Operator) (x y : Float) : Option Bool :=
  match op with
  | .eq => some (areClose x y)
  | .ne => some (decide (tolerance < (x - y).abs))
  | .lt => some (decide (tolerance < y - x))
  | .le => some (decide (-tolerance < y - x))
  | .gt => some (decide (tolerance < x - y))
  | .ge => some (decide (-tolerance < x - y))
  | _ => none

end NavigationBar.Script
