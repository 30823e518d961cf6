/-!
# Classes of characters

A class is given by closed ranges of code points, ascending and apart. The tables of this folder
follow version 17 of the character database.
-/

namespace HeatingHub.Text

/-- A set of characters, as closed ranges of code points. -/
structure CharClass where
  ranges : List (Nat × Nat)

/-- The code point lies in one of the ranges. -/
def CharClass.contains (s : CharClass) (c : Char) : Bool :=
  s.ranges.any fun r => decide (r.1 ≤ c.toNat) && decide (c.toNat ≤ r.2)

end HeatingHub.Text
