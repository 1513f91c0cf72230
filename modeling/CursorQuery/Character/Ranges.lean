/-!
This module contains membership in a set of code points that is given by ascending ranges.
-/

namespace CursorQuery
namespace Character

/--
Whether `n` lies in one of the inclusive ranges. The ranges are in ascending order, so the search ends
at the first one that starts above `n`.
-/
def inRanges (ranges : List (Nat × Nat)) (n : Nat) : Bool :=
  match ranges with
  | [] => false
  | (lo, hi) :: rest => if n < lo then false else n ≤ hi || inRanges rest n

end Character
end CursorQuery
