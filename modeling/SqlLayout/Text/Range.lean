/-!
# Ranges of code points

A property of characters is given by the bounds of its ranges in increasing order: the first code
point of a range, the first one past it, the first of the next range, and so on.
-/

namespace SqlLayout.Text

/-- Whether a code point lies in one of the ranges `[lo, hi)` listed as `lo, hi, lo, hi, …`. -/
def inRanges : List Nat → Nat → Bool
  | lo :: hi :: rest, n => if n < lo then false else if n < hi then true else inRanges rest n
  | [lo], n => decide (lo ≤ n)
  | [], _ => false

end SqlLayout.Text
