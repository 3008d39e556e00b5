import Chip8.Screen.Grid

/-!
# Painting a grid

A grid as the characters that make a terminal show it: the cursor goes to the top left corner, and
then the rows follow, with a control sequence wherever the style changes. A cell that is covered
by a wide character is not written.
-/

set_option autoImplicit false

namespace Chip8

namespace Style

/-- What switches a terminal to the style. -/
def sequence : Style → String
  | plain => "\x1b[0m"
  | onBlack => "\x1b[0;40m"
  | black => "\x1b[0;30m"
  | white => "\x1b[0;37m"
  | yellow => "\x1b[0;33m"
  | boldYellow => "\x1b[0;1;33m"
  | blackOnYellow => "\x1b[0;30;43m"

end Style

namespace Terminal

/-- Some cells side by side, on a terminal that is set to `style`. The first `covered` of them are
covered. -/
def paintCells (style : Style) : Nat → List Cell → String
  | _, [] => ""
  | covered + 1, _ :: rest => paintCells style covered rest
  | 0, cell :: rest =>
    let change := if cell.style = style then "" else cell.style.sequence
    change ++ String.ofList cell.text ++
      paintCells cell.style (Width.ofText cell.text - 1) rest

/-- One row, which leaves the terminal set to no style. -/
def paintRow (cells : List Cell) : String :=
  paintCells .plain 0 cells ++ Style.plain.sequence ++ "\n"

/-- The whole grid, on a cleared terminal. -/
def paint (g : Grid) : String :=
  "\x1b[2J\x1b[H" ++ String.join ((List.range g.height).map fun y => paintRow (g.rowCells y))

end Terminal

end Chip8
