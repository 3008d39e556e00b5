import Chip8.Screen.Grid

/-!
# What a terminal shows

A terminal that is blank at first is sent the cells of a grid, row by row and from the left. Blank
cells need not be sent (`sent`), and the cursor is only moved to a cell that does not follow the
one sent before it. The terminal knows nothing of clusters: it puts one character after the other
where its cursor is (`Line.type`), so a cluster can spill into the cell after it, and a control
character in a title has its effect.
-/

set_option autoImplicit false

namespace Chip8.Terminal

/-- A line of a terminal. -/
structure Line where
  cells : Array Cell
  /-- where the next character goes -/
  cursor : Nat
  /-- the cell that needs no move of the cursor -/
  next : Nat

namespace Line

def blank (width : Nat) : Line := ⟨Array.replicate width {}, 0, 0⟩

/-- Shows one character. A mark joins the character before it, a wide one takes two cells, and
what lies beyond the end of the line is lost. -/
def type (style : Style) (l : Line) (c : Char) : Line :=
  match c with
  | '\t' => { l with cursor := min (l.cells.size - 1) ((l.cursor / 8 + 1) * 8) }
  | '\r' => { l with cursor := 0 }
  | '\x08' => { l with cursor := l.cursor - 1 }
  | c =>
    if c < ' ' ∨ ('\x7f' ≤ c ∧ c < '\u00A0') then l
    else match Width.alone c with
      | 0 =>
        { l with cells := l.cells.modify (l.cursor - 1) fun cell =>
            { cell with marks := cell.marks ++ [c] } }
      | width + 1 =>
        let covered := (List.range width).foldl
          (fun cells k => cells.modify (l.cursor + 1 + k) fun _ => {}) l.cells
        { l with
          cells := covered.modify l.cursor fun _ => ⟨c, [], style⟩
          cursor := l.cursor + width + 1 }

/-- Shows the characters of a cell. -/
def draw (l : Line) (x : Nat) (cell : Cell) : Line :=
  let l := if x = l.next then l else { l with cursor := x }
  { cell.text.foldl (type cell.style) l with next := x + 1 }

end Line

/-- The cells of a row that are sent. A wide cluster hides the cell after it, and any others that
it covers are sent although they are blank; `hidden` says whether the first cell is hidden, and
`stale` how many are covered. -/
def sent (hidden : Bool) (stale : Nat) : List Cell → List (Option Cell)
  | [] => []
  | cell :: rest =>
    let width := Width.ofText cell.text
    let isSent := !hidden && (decide (cell ≠ {}) || decide (0 < stale))
    (if isSent then some cell else none) :: sent (decide (1 < width)) (max width stale - 1) rest

/-- What the terminal shows of a row. -/
def shownRow (cells : List Cell) : List Cell :=
  let line := (sent false 0 cells).zipIdx.foldl
    (fun l (cell?, x) =>
      match cell? with
      | none => l
      | some cell => Line.draw l x cell)
    (Line.blank cells.length)
  line.cells.toList

/-- What the terminal shows of a grid. -/
def shown (g : Grid) : Grid :=
  { g with cells := ((List.range g.height).flatMap fun y => shownRow (g.rowCells y)).toArray }

end Chip8.Terminal
