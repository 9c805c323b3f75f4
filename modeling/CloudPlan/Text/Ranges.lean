/-!
# Membership in ascending ranges

Character properties are stored as ascending inclusive ranges of code points, and `inRanges` looks
a code point up by halving the interval of candidates.
-/

set_option autoImplicit false

namespace CloudPlan.Text

/-- Halving search for the range that holds `n`, between positions `lo` and `hi`. -/
def searchRanges (ranges : Array (Nat × Nat)) (n lo hi : Nat) : Bool :=
  if _h : lo < hi then
    let mid := (lo + hi) / 2
    match ranges[mid]? with
    | none => false
    | some (first, last) =>
      if n < first then searchRanges ranges n lo mid
      else if last < n then searchRanges ranges n (mid + 1) hi
      else true
  else false
termination_by hi - lo

/-- Whether one of the ascending inclusive ranges holds `n`. -/
def inRanges (ranges : Array (Nat × Nat)) (n : Nat) : Bool :=
  searchRanges ranges n 0 ranges.size

end CloudPlan.Text
