/-!
# Range tables

A class of code points is a sorted list of closed ranges.
-/

namespace HostCall

/-- Closed ranges in increasing order. -/
abbrev RangeTable := List (Nat × Nat)

namespace RangeTable

/-- Membership; the search ends at the first range that begins too late. -/
def contains : RangeTable → Nat → Bool
  | [], _ => false
  | (lo, hi) :: rest, n => if n < lo then false else n ≤ hi || contains rest n

end RangeTable

end HostCall
