/-!
# Intervals of code points

A property of characters is stored as an increasing list of closed intervals of code points.
-/

namespace BrickLint.Text

/-- Membership of a code point in a list of closed intervals. -/
def inIntervals (table : List (Nat × Nat)) (code : Nat) : Bool :=
  table.any fun interval => interval.1 ≤ code && code ≤ interval.2

end BrickLint.Text
