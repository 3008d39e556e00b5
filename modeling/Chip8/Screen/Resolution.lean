/-!
# Canvas points

The frame is painted on a canvas whose horizontal axis runs from 0 to the right and whose vertical
axis runs up, with row 0 of the frame at height 0 and the others below it. All coordinates are
whole numbers. The canvas itself counts with 53 significant bits, so it shows the ends of a very
long axis rounded (`canvasX`, `canvasY`).
-/

set_option autoImplicit false

namespace Chip8

/-- The size of a frame, in pixels. -/
structure Resolution where
  width : Nat
  height : Nat
  deriving DecidableEq, Repr

namespace Resolution

def pixelCount (r : Resolution) : Nat := r.width * r.height

/-- The ends of the horizontal axis. -/
def xBounds (r : Resolution) : Int × Int := (0, (r.width : Int) - 1)

/-- The ends of the vertical axis. -/
def yBounds (r : Resolution) : Int × Int := (1 - (r.height : Int), 0)

/-- Whether a frame of this size can be painted: it has pixels, and not too many to be counted. -/
def isPaintable (r : Resolution) : Bool :=
  decide (0 < r.width) && decide (0 < r.height) && decide (r.pixelCount < Nat.pow 2 64)

/-- The nearest number with so many significant bits. Halves go to the even neighbour. -/
def roundToBits (bits n : Nat) : Nat :=
  let unit := Nat.pow 2 (n.log2 + 1 - bits)
  let below := n / unit
  let rest := n % unit
  if unit < 2 * rest ∨ (unit = 2 * rest ∧ below % 2 = 1) then (below + 1) * unit
  else below * unit

/-- How far an axis of so many pixels reaches on the canvas. It ends where a machine word does. -/
def reach (pixels limit : Nat) : Int := min (roundToBits 53 (pixels - 1)) limit

/-- The ends of the horizontal axis, as the canvas has them. -/
def canvasX (r : Resolution) : Int × Int := (0, reach r.width (Nat.pow 2 63 - 1))

/-- The ends of the vertical axis, as the canvas has them. -/
def canvasY (r : Resolution) : Int × Int := (-reach r.height (Nat.pow 2 63), 0)

/-- Where the pixel with a given number lies. -/
def point (r : Resolution) (n : Nat) : Int × Int :=
  ((n % r.width : Nat), -((n / r.width : Nat) : Int))

/-- The points of the pixels that have a value, in the order of the frame. What lies beyond the
last row is left out, and a short frame just ends. -/
def points (r : Resolution) (frame : List UInt8) (value : UInt8) : List (Int × Int) :=
  ((frame.take r.pixelCount).zipIdx.filter fun (pixel, _) => pixel = value).map
    fun (_, n) => r.point n

/-- The points of the pixels that have a value, if a frame of this size can be painted. -/
def points? (r : Resolution) (frame : List UInt8) (value : UInt8) : Option (List (Int × Int)) :=
  if r.isPaintable then some (r.points frame value) else none

end Resolution

end Chip8
