/-!
# Ranges of code points

A set of characters is written as ascending, disjoint ranges of code points, both ends included.
-/

namespace RowFilter.Text

abbrev CodeRange := Nat × Nat

/-- Membership in ascending ranges; the search ends at the first range beyond the code point. -/
def within : List CodeRange → Nat → Bool
  | [], _ => false
  | (low, high) :: rest, n => if n < low then false else n ≤ high || within rest n

end RowFilter.Text
