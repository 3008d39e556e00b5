import Chip8.Text.Hex
import Chip8.Opcode

/-!
# Hex dumps

Sixteen bytes to a row: `0x`, the address of the first of them in at least four digits, then each
byte as a blank and two digits. The last row holds what is left, and may be shorter.
-/

set_option autoImplicit false

namespace Chip8.HexDump

/-- Bytes in a row. -/
def rowBytes : Nat := 16

/-- One row: the address it starts at, then its bytes. -/
def row (start : Nat) (bytes : List UInt8) : String :=
  String.ofList ('0' :: 'x' :: Hex.padded 4 start ++
    bytes.flatMap fun b => ' ' :: Hex.padded 2 b.toNat)

/-- The rows of `bytes`, the first of which lies at `start`. -/
def rowsFrom (start : Nat) (bytes : List UInt8) : List String :=
  match bytes with
  | [] => []
  | b :: rest =>
    row start ((b :: rest).take rowBytes) ::
      rowsFrom (start + rowBytes) ((b :: rest).drop rowBytes)
termination_by bytes.length
decreasing_by
  simp only [rowBytes, List.length_drop, List.length_cons]
  omega

/-- The rows of `bytes`, counted from address 0. -/
def rows (bytes : List UInt8) : List String := rowsFrom 0 bytes

/-- The number of the row that shows an address; only its low twelve bits count. -/
def rowOf (addr : UInt16) : Nat := (Address.ofWord addr).val / rowBytes

end Chip8.HexDump
