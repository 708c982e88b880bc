/-!
Contract: classes of characters given by ranges of code points.
-/

namespace WorkHost.Text

/-- First and last code points of ranges in ascending order. -/
abbrev Ranges := List (Nat × Nat)

namespace Ranges

def contains (ranges : Ranges) (point : Nat) : Bool :=
  ranges.any fun (first, last) => first ≤ point && point ≤ last

end Ranges

end WorkHost.Text
