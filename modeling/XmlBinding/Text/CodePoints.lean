/-!
# Sets of characters as ranges of code points

* `CodePoints.contains r c` : the code point of `c` lies in one of the ranges of `r`, ends included.
-/

namespace XmlBinding.Text

/-- Ranges of code points, both ends included. -/
abbrev CodePoints := List (Nat × Nat)

def CodePoints.contains (ranges : CodePoints) (c : Char) : Bool :=
  ranges.any fun (first, last) => decide (first ≤ c.toNat) && decide (c.toNat ≤ last)

end XmlBinding.Text
