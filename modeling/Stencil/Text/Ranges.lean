import Stencil.Text.Basic

namespace Stencil.Text

/-- Whether a number lies in one of the ranges. They stand in ascending order, both ends belong to
a range, and the search ends at the first range above the number. -/
def inRanges : List (Nat × Nat) → Nat → Bool
  | [], _ => false
  | (low, high) :: rest, n => decide (low ≤ n) && (decide (n ≤ high) || inRanges rest n)

end Stencil.Text
