import Chip8.Command

/-!
# The memory cursor

The row of the memory listing that is marked. It follows the program counter, except that
scrolling takes over until the program counter moves to another row.
-/

set_option autoImplicit false

namespace Chip8

structure MemoryCursor where
  /-- the marked row -/
  selected : Nat := 0
  /-- the row of the program counter when it was last followed -/
  followed : Option Nat := none
  deriving DecidableEq, Repr

namespace MemoryCursor

/-- The last of the 256 rows. -/
def lastRow : Nat := 255

/-- Tells the cursor where the program counter is. -/
def follow (c : MemoryCursor) (row : Nat) : MemoryCursor :=
  if c.followed = some row then c else ⟨row, some row⟩

def scroll (c : MemoryCursor) (direction : Scroll) : MemoryCursor :=
  { c with selected := match direction with
      | .down => min (c.selected + 1) lastRow
      | .up => c.selected - 1
      | .top => 0
      | .bottom => lastRow }

end MemoryCursor

end Chip8
