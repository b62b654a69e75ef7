/-!
# Sets of characters given by ranges

A property of the Unicode character database is a list of closed ranges of code points.
-/

namespace Facsimile
namespace Text

/-- Closed ranges of code points. -/
abbrev CharRanges := List (Nat × Nat)

def CharRanges.contains (ranges : CharRanges) (c : Char) : Bool :=
  ranges.any fun (first, last) => decide (first ≤ c.toNat) && decide (c.toNat ≤ last)

end Text
end Facsimile
