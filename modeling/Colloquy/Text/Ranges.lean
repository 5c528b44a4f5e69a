import Colloquy.Text.Basic

/-!
# Ranges of code points

A class of code points is given by the list of its ranges, in increasing order.
-/

namespace Colloquy.Text

/-- Whether `c` lies in one of the ranges; both ends belong to a range. The ranges are in
increasing order, so the search ends at the first one that begins above `c`. -/
def inRanges (c : CodePoint) : List (CodePoint × CodePoint) → Bool
  | [] => false
  | (low, high) :: rest => if c < low then false else if c ≤ high then true else inRanges c rest

end Colloquy.Text
