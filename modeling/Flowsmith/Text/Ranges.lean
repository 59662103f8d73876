/-!
Sets of characters given as ranges of code points, the form in which tables of character properties
are written.
-/

namespace Flowsmith.Text

/-- Whether a code point lies in one of the ranges, ends included. -/
def inRanges (ranges : List (Nat × Nat)) (n : Nat) : Bool :=
  ranges.any (fun r => r.1 ≤ n && n ≤ r.2)

end Flowsmith.Text
