/-!
# Powers

The powers of two and of ten, which bound the integers of a word and scale numbers.
-/

namespace NavigationBar

/-- Two to a natural number. -/
def twoTo (n : Nat) : Nat :=
  Nat.pow 2 n

/-- Ten to a natural number. -/
def tenTo (n : Nat) : Nat :=
  Nat.pow 10 n

end NavigationBar
