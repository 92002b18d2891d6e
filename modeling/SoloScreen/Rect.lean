import SoloScreen.Action

/-!
# Rectangles

Screen rectangles with 32-bit integer coordinates; the right and the lower edge do not belong to the
rectangle. Sums and differences of coordinates are exact or overflow: `Coordinate.add` and
`Coordinate.sub` say when.
-/

namespace SoloScreen

namespace Coordinate

/-- The 32-bit number of an integer, if it is in range; otherwise the given overflow. -/
def ofInt (overflow : Overflow) (n : Int) : Except Overflow Int32 :=
  if -0x80000000 ≤ n ∧ n < 0x80000000 then .ok (Int32.ofInt n) else .error overflow

/-- The sum of two coordinates. -/
def add (a b : Int32) : Except Overflow Int32 := ofInt .add (a.toInt + b.toInt)

/-- The difference of two coordinates. -/
def sub (a b : Int32) : Except Overflow Int32 := ofInt .subtract (a.toInt - b.toInt)

end Coordinate

/-- A rectangle on the screen, given by its edges. It may be empty or inverted. -/
structure Rect where
  /-- The first column. -/
  left : Int32
  /-- The first row. -/
  top : Int32
  /-- The column after the last one. -/
  right : Int32
  /-- The row after the last one. -/
  bottom : Int32
  deriving DecidableEq, Repr

namespace Rect

/-- The rectangle with a given corner and size. -/
def ofSize (left top width height : Int32) : Except Overflow Rect := do
  let right ← Coordinate.add left width
  let bottom ← Coordinate.add top height
  pure ⟨left, top, right, bottom⟩

/-- The distance from the left edge to the right one, negative for an inverted rectangle. -/
def width (r : Rect) : Except Overflow Int32 := Coordinate.sub r.right r.left

/-- The distance from the upper edge to the lower one, negative for an inverted rectangle. -/
def height (r : Rect) : Except Overflow Int32 := Coordinate.sub r.bottom r.top

/-- `r` covers `other` whole; equal edges count as covered. -/
def covers (r other : Rect) : Bool :=
  r.left ≤ other.left && r.top ≤ other.top && other.right ≤ r.right && other.bottom ≤ r.bottom

/-- The area that two rectangles share, zero if they are apart, empty or inverted. -/
def intersectionArea (r other : Rect) : Except Overflow Int := do
  let width ← Coordinate.sub (min r.right other.right) (max r.left other.left)
  let height ← Coordinate.sub (min r.bottom other.bottom) (max r.top other.top)
  pure (if width.toInt ≤ 0 ∨ height.toInt ≤ 0 then 0 else width.toInt * height.toInt)

/-- The corners and the size, as text. -/
def display (r : Rect) : Except Overflow String := do
  let width ← r.width
  let height ← r.height
  let corner (x y : Int32) := "(" ++ toString x.toInt ++ ", " ++ toString y.toInt ++ ")"
  pure (corner r.left r.top ++ "-" ++ corner r.right r.bottom ++ " " ++
    toString width.toInt ++ "x" ++ toString height.toInt)

end Rect

end SoloScreen
