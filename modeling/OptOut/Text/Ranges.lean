/-!
# Ascending tables of code points

Character classes are kept as closed ranges of code points in ascending order.
-/

namespace OptOut.Text

/-- Whether `code` lies in one of the ranges; the scan ends at the first range beyond it. -/
def inRanges : List (Nat × Nat) → Nat → Bool
  | [], _ => false
  | (first, last) :: rest, code =>
    if code < first then false else decide (code ≤ last) || inRanges rest code

end OptOut.Text
