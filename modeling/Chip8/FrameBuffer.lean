/-!
# The frame buffer

64 by 32 pixels, each on or off, kept row after row. A sprite is drawn by flipping pixels: eight
columns wide, one byte a row, the most significant bit leftmost. Nothing wraps around an edge:
what falls outside the screen is not drawn. Switching a lit pixel off is a collision, and a draw
reports whether there was one anywhere in the sprite.
-/

set_option autoImplicit false

namespace Chip8

/-- The screen's pixels, `true` for lit. -/
structure FrameBuffer where
  pixels : Vector Bool 2048
  deriving DecidableEq

namespace FrameBuffer

def width : Nat := 64

def height : Nat := 32

def blank : FrameBuffer := ⟨Vector.replicate 2048 false⟩

/-- Where the pixel in column `x` of row `y` is kept. -/
def index (x y : Nat) : Nat := y * width + x

/-- The pixel kept at `index x y`. A column past the right edge names a pixel of a row below. -/
def pixel? (f : FrameBuffer) (x y : Nat) : Option Bool := f.pixels[index x y]?

/-- The pixels of one row, left to right. -/
def row (f : FrameBuffer) (y : Nat) : List Bool :=
  (f.pixels.toList.drop (index 0 y)).take width

/-- One byte a pixel, 1 for lit. -/
def toBytes (f : FrameBuffer) : List UInt8 :=
  f.pixels.toList.map fun lit => if lit then 1 else 0

/-- A frame buffer that is being drawn on, and whether a lit pixel has gone out so far. -/
structure Drawing where
  frame : FrameBuffer
  collision : Bool
  deriving DecidableEq

namespace Drawing

/-- Flips the pixel in column `x` of row `y`, if there is one. -/
def flip (d : Drawing) (x y : Nat) : Drawing :=
  if h : x < 64 ∧ y < 32 then
    have inside : index x y < 2048 := by simp only [index, width]; omega
    { frame := ⟨d.frame.pixels.set (index x y) (!d.frame.pixels[index x y])⟩
      collision := d.collision || d.frame.pixels[index x y] }
  else
    d

/-- Flips the pixels that one sprite row covers. -/
def flipRow (d : Drawing) (x y : Nat) (bits : UInt8) : Drawing :=
  (List.range 8).foldl
    (fun d column => if bits.toNat.testBit (7 - column) then d.flip (x + column) y else d) d

/-- Flips the pixels that a sprite covers, its top left corner at column `x` of row `y`. -/
def flipRows (d : Drawing) (x y : Nat) : List UInt8 → Drawing
  | [] => d
  | bits :: below => (d.flipRow x y bits).flipRows x (y + 1) below

end Drawing

/-- Draws a sprite with its top left corner at column `x` of row `y`. Positions are numbers of any
size here; `Blit.draw?` adds them as words and has no answer where a sum is none. -/
def drawSprite (f : FrameBuffer) (x y : Nat) (sprite : List UInt8) : Drawing :=
  Drawing.flipRows ⟨f, false⟩ x y sprite

end FrameBuffer

end Chip8
