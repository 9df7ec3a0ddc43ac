/-!
Sets of characters given as ranges of code points.
-/

namespace Screensaver.Text

/-- Whether a code point lies in one of the ranges, ends included. -/
def inRanges (ranges : Array (Nat × Nat)) (code : Nat) : Bool :=
  ranges.any fun r => r.1 ≤ code && code ≤ r.2

end Screensaver.Text
