/-!
Rectangles on a grid of 64-bit coordinates.

A rectangle is given by its top left corner and its extent. The right and the bottom edge are
sums, and like all sums of coordinates they wrap around at the ends of the 64-bit range; a point is
inside when it lies between the left edge and the (possibly wrapped) right edge, and likewise
downwards.
-/

namespace Screensaver

/-- A rectangle: the corner at `x`, `y` and the extent `w` by `h`. -/
structure Rect where
  x : Int64
  y : Int64
  w : Int64
  h : Int64
deriving DecidableEq

namespace Rect

/-- The first column to the right of the rectangle. -/
def right (r : Rect) : Int64 :=
  r.x + r.w

/-- The first row below the rectangle. -/
def bottom (r : Rect) : Int64 :=
  r.y + r.h

/-- A rectangle without positive width or without positive height. -/
def isEmpty (r : Rect) : Bool :=
  r.w ≤ 0 || r.h ≤ 0

/-- Whether the point lies between the edges, the left and the top one included. -/
def contains (r : Rect) (px py : Int64) : Bool :=
  r.x ≤ px && px < r.right && r.y ≤ py && py < r.bottom

end Rect

/-- The value itself between the two bounds, and the bound it passes otherwise. The lower bound
is looked at first. -/
def clamp (v lo hi : Int64) : Int64 :=
  if v < lo then lo else if hi < v then hi else v

/-- A requested size as a number of cells: a negative request counts as none. -/
def extent (n : Int64) : Nat :=
  n.toInt.toNat

end Screensaver
