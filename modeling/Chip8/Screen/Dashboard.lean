import Chip8.Screen.Panels
import Chip8.Screen.MemoryCursor

/-!
# The dashboard

The layout of the whole screen. The top two thirds hold the display and the info panel, the bottom
third registers, stack, keys and memory. All sizes are truncated percentages, and the last panel
of each row takes what is left.
-/

set_option autoImplicit false

namespace Chip8

/-- Where each panel goes. -/
structure Layout where
  display : Rect
  info : Rect
  registers : Rect
  stack : Rect
  keys : Rect
  memory : Rect
  deriving DecidableEq, Repr

namespace Layout

/-- How many cells are drawn at most. -/
def cellLimit : Nat := 65535

/-- The square root of a number below `2 ^ 32`, without its fraction. -/
def floorSqrt (n : Nat) : Nat :=
  (List.range 16).foldr
    (fun bit root =>
      let next := root + Nat.pow 2 bit
      if next * next ≤ n then next else root) 0

/-- The part of a screen that is drawn, from the top left corner: all of it, or the largest part
of the same shape that keeps to `cellLimit`. -/
def drawnPart (columns rows : Nat) : Nat × Nat :=
  if columns * rows ≤ cellLimit then (columns, rows)
  else (floorSqrt (cellLimit * columns / rows), floorSqrt (cellLimit * rows / columns))

/-- The layout of a screen with so many columns and rows. -/
def ofSize (columns rows : Nat) : Layout :=
  let top := rows * 66 / 100
  let bottom := rows - top
  let split := columns * 75 / 100
  { display := ⟨0, 0, split, top⟩
    info := ⟨split, 0, columns - split, top⟩
    registers := ⟨0, top, columns * 13 / 100, bottom⟩
    stack := ⟨columns * 13 / 100, top, columns * 13 / 100, bottom⟩
    keys := ⟨columns * 26 / 100, top, columns * 12 / 100, bottom⟩
    memory := ⟨columns * 38 / 100, top, columns - columns * 38 / 100, bottom⟩ }

end Layout

/-- What one render shows: a snapshot, and the memory row that is marked. -/
structure View where
  snapshot : Snapshot
  selected : Nat
  deriving DecidableEq

namespace View

/-- The screen that shows a view, under a title. -/
def draw (v : View) (columns rows : Nat) (title : String) : Grid :=
  let (width, height) := Layout.drawnPart columns rows
  let l := Layout.ofSize width height
  let g := Grid.blank columns rows
  let g := Panel.display g l.display v.snapshot
  let g := Panel.info g l.info title v.snapshot
  let g := Panel.registers g l.registers v.snapshot
  let g := Panel.stack g l.stack v.snapshot
  let g := Panel.keys g l.keys v.snapshot
  Panel.memory g l.memory v.snapshot v.selected

end View

/-- A screen in use: its cursor, what it was asked to do, and which render it fails at, if it
does. -/
structure Screen where
  cursor : MemoryCursor := {}
  /-- newest first -/
  scrolls : List Scroll := []
  /-- what was rendered, newest first -/
  shown : List View := []
  /-- the render that fails, counting from 1, and what it says -/
  fails : Option (Nat × String) := none
  deriving DecidableEq

namespace Screen

/-- How the last render came out. -/
def outcome (s : Screen) : Except Error Unit :=
  match s.fails with
  | none => .ok ()
  | some (failing, reason) => if s.shown.length = failing then .error (.io reason) else .ok ()

/-- Shows a snapshot. The cursor follows the program counter. A render that fails has happened all
the same. -/
def render (s : Screen) (snapshot : Snapshot) : Screen × Except Error Unit :=
  let cursor := s.cursor.follow snapshot.pcRow
  let s := { s with cursor := cursor, shown := ⟨snapshot, cursor.selected⟩ :: s.shown }
  (s, s.outcome)

/-- Moves around the memory listing. -/
def scroll (s : Screen) (direction : Scroll) : Screen :=
  { s with cursor := s.cursor.scroll direction, scrolls := direction :: s.scrolls }

end Screen

end Chip8
