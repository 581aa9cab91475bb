/-!
# Tables of code points

A property of characters is given by a list of inclusive ranges of code points.
-/

namespace ArgumentSchema.Text

/-- Whether a code point lies in one of the ranges. -/
def inRanges (ranges : List (Nat × Nat)) (n : Nat) : Bool :=
  ranges.any fun r => r.1 ≤ n && n ≤ r.2

end ArgumentSchema.Text
