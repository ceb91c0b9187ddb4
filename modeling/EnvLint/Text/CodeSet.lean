/-! # Sets of code points

    A property of characters is kept as the increasing list of the code points
    where membership flips: it is off before the first, on from the first to
    the second, and so on.  `contains` therefore asks whether an odd number of
    flips lies at or below the code point. -/

namespace EnvLint.Text

/-- A set of code points, as the increasing list of the points where membership
    flips. -/
structure CodeSet where
  /-- Points where membership flips, in increasing order. -/
  flips : List Nat

namespace CodeSet

/-- The flips at or below a code point. -/
def below (s : CodeSet) (c : Nat) : List Nat :=
  s.flips.takeWhile (· ≤ c)

/-- Whether the set holds a code point. -/
def contains (s : CodeSet) (c : Nat) : Bool :=
  (s.below c).length % 2 == 1

/-- Distance of a member from the start of its run. -/
def offset? (s : CodeSet) (c : Nat) : Option Nat :=
  if s.contains c then (s.below c).getLast?.map (c - ·) else none

end CodeSet

end EnvLint.Text
