/-!
# Ranges of code points

Properties of characters are kept as ascending lists of closed ranges.
-/

namespace DialogGraph.Text

def inRanges (ranges : List (Nat × Nat)) (n : Nat) : Bool :=
  ranges.any fun range => range.1 ≤ n && n ≤ range.2

end DialogGraph.Text
