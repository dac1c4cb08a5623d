/-!
# Ranges of characters

Properties of characters are tables of ranges, each given by its first and its last number.
-/

namespace AuditFeed.Text

/-- Is a number in one of the ranges? -/
def inRanges (ranges : Array (Nat × Nat)) (n : Nat) : Bool :=
  ranges.any fun (low, high) ↦ low ≤ n && n ≤ high

end AuditFeed.Text
