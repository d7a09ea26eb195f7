/-!
# Ranges of code points

A property of characters is the list of its ranges of code points, in increasing order.
-/

namespace BenchReport.Text

/-- Whether a code point lies in one of the ranges. The ranges are in increasing order, so the first one that ends at or after the code point decides. -/
def inRanges (code : Nat) : List (Nat × Nat) → Bool
  | [] => false
  | range :: rest => if range.2 < code then inRanges code rest else decide (range.1 ≤ code)

end BenchReport.Text
