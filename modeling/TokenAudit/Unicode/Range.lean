/-!
# Sets of code points as sorted ranges

A set of code points is an array of closed ranges, in ascending order and pairwise disjoint.
Membership halves the array at every step.
-/

namespace TokenAudit.Unicode

/-- A sorted array of disjoint closed ranges of code points. -/
abbrev RangeTable := Array (Nat × Nat)

namespace RangeTable

/-- Whether a range with index in `[lo, hi)` holds `code`. -/
def containsBetween (table : RangeTable) (code lo hi : Nat) : Bool :=
  if lo < hi then
    let mid := (lo + hi) / 2
    let (first, last) := table.getD mid (0, 0)
    if code < first then containsBetween table code lo mid
    else if last < code then containsBetween table code (mid + 1) hi
    else true
  else false
termination_by hi - lo
decreasing_by all_goals omega

/-- Whether some range of the table holds `code`. -/
def contains (table : RangeTable) (code : Nat) : Bool :=
  table.containsBetween code 0 table.size

end RangeTable

end TokenAudit.Unicode
