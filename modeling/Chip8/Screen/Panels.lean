import Chip8.Snapshot
import Chip8.Screen.Grid
import Chip8.Screen.Resolution
import Chip8.Screen.Wrap

/-!
# Panels

The six panels of the dashboard, each drawn into an area of a grid: the machine's display, the
machine's info, and the lists of registers, stack slots, keys and memory rows.
-/

set_option autoImplicit false

namespace Chip8.Panel

/-- Rows of text from the top of an area, cut to its size. -/
def putRows (g : Grid) (r : Rect) (rows : List (List Char)) : Grid :=
  (rows.take r.height).zipIdx.foldl (fun g (row, n) => g.putText r.x (r.y + n) r.width row) g

/-- A framed list in yellow. -/
def list (g : Grid) (r : Rect) (title : String) (rows : List String) : Grid :=
  putRows ((g.paint r .yellow).frame r title.toList) r.inner (rows.map String.toList)

/-- The registers, with the rows of those just written in bold. -/
def registers (g : Grid) (r : Rect) (s : Snapshot) : Grid :=
  let drawn := list g r "Registers" s.registerRows
  (List.finRange 16).foldl
    (fun g x =>
      if s.changed.get x && decide (x.val < r.inner.height) then
        g.paint (r.inner.row x.val) .boldYellow
      else g)
    drawn

def stack (g : Grid) (r : Rect) (s : Snapshot) : Grid := list g r "Stack" s.stackRows

def keys (g : Grid) (r : Rect) (s : Snapshot) : Grid := list g r "Keys" s.keyRows

/-- The first row shown of a list in which `selected` has to be seen: the list starts at the top
and moves no further than it must. -/
def firstShown (height selected : Nat) : Nat := selected + 1 - height

/-- The memory listing, with one row marked. -/
def memory (g : Grid) (r : Rect) (s : Snapshot) (selected : Nat) : Grid :=
  let first := firstShown r.inner.height selected
  let drawn := list g r "Memory" ((s.memoryRows.drop first).take r.inner.height)
  if r.inner.height = 0 then drawn
  else drawn.paint (r.inner.row (selected - first)) .blackOnYellow

/-- The info rows, wrapped to the panel. -/
def info (g : Grid) (r : Rect) (title : String) (s : Snapshot) : Grid :=
  putRows (g.frame r ("INFO " ++ title).toList) r.inner
    (Wrap.lines r.inner.width r.inner.height s.infoRows)

/-- The cell of an inner area that shows a canvas point. -/
def cellOf (res : Resolution) (r : Rect) (p : Int × Int) : Nat × Nat :=
  (r.x + p.1.toNat * (r.width - 1) / (res.width - 1),
    r.y + (-p.2).toNat * (r.height - 1) / (res.height - 1))

/-- Marks the cells of some canvas points. -/
def plot (g : Grid) (res : Resolution) (r : Rect) (points : List (Int × Int)) (style : Style) :
    Grid :=
  if r.width = 0 ∨ r.height = 0 then g
  else points.foldl
    (fun g p =>
      let (x, y) := cellOf res r p
      g.modify x y fun _ => ⟨'▄', [], style⟩)
    g

/-- Whether the display can be drawn into an area: at least one cell is left within its frame. -/
def displayFits (r : Rect) : Bool := decide (0 < r.inner.width) && decide (0 < r.inner.height)

/-- The machine's display: unlit pixels first, so a lit one wins a cell that they share. -/
def display (g : Grid) (r : Rect) (s : Snapshot) : Grid :=
  let res : Resolution := ⟨s.width, s.height⟩
  let framed := (g.paint r .onBlack).frame r "CHIP-8".toList
  let unlit := plot framed res r.inner (res.points s.frame.toBytes 0) .black
  plot unlit res r.inner (res.points s.frame.toBytes 1) .white

end Chip8.Panel
