/-!
Sets of characters as ranges of code points. -/

namespace FilterQuery.Text

/-- Closed ranges of code points, in increasing order and apart. -/
abbrev Ranges := List (Nat × Nat)

namespace Ranges

/-- Whether a code point lies in one of the ranges. The first range that begins behind it ends the search. -/
def contains : Ranges → Nat → Bool
  | [], _ => false
  | (first, last) :: rest, n => if n < first then false else n ≤ last || contains rest n

end Ranges

end FilterQuery.Text
