/-!
# Ranges of code points

A set of characters is a table of ranges of code points, in ascending order.
-/

namespace Clusterwright.Text

/-- Whether a number lies in one of some ranges. -/
def inRanges (ranges : Array (Nat × Nat)) (n : Nat) : Bool :=
  ranges.any fun r => r.1 ≤ n && n ≤ r.2

end Clusterwright.Text
