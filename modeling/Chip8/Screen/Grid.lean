import Chip8.Text.Width

/-!
# Character grids

A terminal screen: cells in rows, each with a character and a style. A character can have marks,
which are shown in its cell, and it can be wider than its cell: then it covers cells to its right,
which are blank. Drawing outside the grid does nothing. A `Rect` is an area of cells.
-/

set_option autoImplicit false

namespace Chip8

/-- The ways a cell is shown. -/
inductive Style where
  | plain
  | onBlack
  | black
  | white
  | yellow
  | boldYellow
  | blackOnYellow
  deriving DecidableEq, Repr

structure Cell where
  symbol : Char := ' '
  /-- what belongs to the character: accents and the like -/
  marks : List Char := []
  style : Style := .plain
  deriving DecidableEq, Repr

/-- All the characters in a cell. -/
def Cell.text (c : Cell) : List Char := c.symbol :: c.marks

/-- An area of cells, by its top left corner and its size. -/
structure Rect where
  x : Nat
  y : Nat
  width : Nat
  height : Nat
  deriving DecidableEq, Repr

namespace Rect

/-- The area without its outermost cells, which a border takes. -/
def inner (r : Rect) : Rect := ⟨r.x + 1, r.y + 1, r.width - 2, r.height - 2⟩

/-- The topmost rows of the area, each one cell high, with their numbers. -/
def row (r : Rect) (n : Nat) : Rect := ⟨r.x, r.y + n, r.width, 1⟩

end Rect

structure Grid where
  width : Nat
  height : Nat
  /-- row after row -/
  cells : Array Cell
  deriving DecidableEq

namespace Grid

def blank (width height : Nat) : Grid := ⟨width, height, Array.replicate (width * height) {}⟩

/-- The whole grid as an area. -/
def area (g : Grid) : Rect := ⟨0, 0, g.width, g.height⟩

/-- Changes one cell. -/
def modify (g : Grid) (x y : Nat) (f : Cell → Cell) : Grid :=
  if x < g.width ∧ y < g.height then
    { g with cells := g.cells.modify (y * g.width + x) f }
  else g

/-- Puts a character into a cell and leaves its style. -/
def putSymbol (g : Grid) (x y : Nat) (c : Char) : Grid :=
  g.modify x y fun cell => { cell with symbol := c, marks := [] }

/-- Puts the characters of a cluster into one cell and leaves its style. -/
def putCluster (g : Grid) (x y : Nat) : List Char → Grid
  | [] => g
  | c :: marks => g.modify x y fun cell => { cell with symbol := c, marks := marks }

/-- Makes cells side by side blank and plain. -/
def clear (g : Grid) (x y count : Nat) : Grid :=
  (List.range count).foldl (fun g k => g.modify (x + k) y fun _ => {}) g

/-- Puts characters side by side, at most `limit` of them. -/
def putText (g : Grid) (x y limit : Nat) (text : List Char) : Grid :=
  ((text.take limit).zipIdx).foldl (fun g (c, k) => g.putSymbol (x + k) y c) g

/-- Puts clusters side by side into so many columns, as far as they fit. One without a width is
left out, and a wide one clears the cells that it covers. -/
def putClusters (g : Grid) (x y columns : Nat) : List (List Char) → Grid
  | [] => g
  | cluster :: rest =>
    let width := Width.ofText cluster
    if width = 0 then putClusters g x y columns rest
    else if columns < width then g
    else
      putClusters ((g.putCluster x y cluster).clear (x + 1) y (width - 1))
        (x + width) y (columns - width) rest

/-- Changes the style of an area by what it was. -/
def restyle (g : Grid) (r : Rect) (f : Style → Style) : Grid :=
  (List.range r.height).foldl
    (fun g dy =>
      (List.range r.width).foldl
        (fun g dx => g.modify (r.x + dx) (r.y + dy) fun cell => { cell with style := f cell.style })
        g)
    g

/-- Gives an area one style. -/
def paint (g : Grid) (r : Rect) (style : Style) : Grid := g.restyle r fun _ => style

/-- The cells of one row. -/
def rowCells (g : Grid) (y : Nat) : List Cell :=
  (g.cells.toList.drop (y * g.width)).take g.width

/-- The characters of each row, from the top. -/
def lines (g : Grid) : List (List Char) :=
  (List.range g.height).map fun y => (g.rowCells y).map Cell.symbol

/-- The styles of each row, from the top. -/
def styles (g : Grid) : List (List Style) :=
  (List.range g.height).map fun y => (g.rowCells y).map Cell.style

/-- Whether some characters stand side by side somewhere in a line. -/
def occursIn (text : List Char) : List Char → Bool
  | [] => text.isEmpty
  | c :: rest => text.isPrefixOf (c :: rest) || occursIn text rest

/-- Whether some row holds a text. -/
def contains (g : Grid) (text : String) : Bool := g.lines.any (occursIn text.toList)

/-- Draws a border on the outermost cells of an area: the left, top, right and bottom side, then
the corners from the bottom right to the top left, and then a title in the top side. Where the
area is too small, the later wins. An area without cells has no border. -/
def frame (g : Grid) (r : Rect) (title : List Char) : Grid :=
  if r.width = 0 ∨ r.height = 0 then g else
  let right := r.x + r.width - 1
  let bottom := r.y + r.height - 1
  let vertical := fun (g : Grid) (x : Nat) =>
    (List.range r.height).foldl (fun g k => g.putSymbol x (r.y + k) '│') g
  let horizontal := fun (g : Grid) (y : Nat) =>
    (List.range r.width).foldl (fun g k => g.putSymbol (r.x + k) y '─') g
  let sides := horizontal (vertical (horizontal (vertical g r.x) r.y) right) bottom
  let corners := (((sides.putSymbol right bottom '┘').putSymbol right r.y '┐').putSymbol
    r.x bottom '└').putSymbol r.x r.y '┌'
  corners.putClusters (r.x + 1) r.y (r.width - 2) (Cluster.split title)

end Grid

end Chip8
