import Chip8.Memory.HexDump
import Chip8.Proofs.Text.Hex

/-!
# Where a hex dump shows what

The rows of a dump are cut off one after the other, and each is written byte by byte. This file says
where that leaves a byte: row `r` holds the bytes from `16 * r` on (`getElem?_rows`), and within the
row each byte has two characters of its own, at a place that does not depend on the other bytes
(`cell_row`). The second holds because numbers are filled up to a fixed width, which they do not
exceed as long as the address has four digits.
-/

set_option autoImplicit false

namespace Chip8.HexDump

/-! ## Rows -/

theorem getElem?_rowsFrom (start : Nat) (bytes : List UInt8) (r : Nat) :
    (rowsFrom start bytes)[r]?
      = if rowBytes * r < bytes.length then
          some (row (start + rowBytes * r) ((bytes.drop (rowBytes * r)).take rowBytes))
        else none := by
  induction r generalizing start bytes with
  | zero =>
    cases bytes with
    | nil => rw [rowsFrom]; rfl
    | cons b rest => rw [rowsFrom]; rfl
  | succ r ih =>
    cases bytes with
    | nil => rw [rowsFrom]; rfl
    | cons b rest =>
      have shift : rowBytes + rowBytes * r = rowBytes * (r + 1) := by rw [Nat.mul_succ, Nat.add_comm]
      have inside : rowBytes * r < (b :: rest).length - rowBytes
          ↔ rowBytes * (r + 1) < (b :: rest).length := by
        rw [← shift]
        omega
      rw [rowsFrom, List.getElem?_cons_succ, ih, List.drop_drop, List.length_drop, Nat.add_assoc,
        shift]
      simp only [inside]

/-- **A row holds sixteen bytes**, or what is left of them. -/
theorem getElem?_rows (bytes : List UInt8) (r : Nat) :
    (rows bytes)[r]?
      = if rowBytes * r < bytes.length then
          some (row (rowBytes * r) ((bytes.drop (rowBytes * r)).take rowBytes))
        else none := by
  rw [rows, getElem?_rowsFrom, Nat.zero_add]

/-! ## Columns -/

/-- Pieces of equal length are left out one by one. -/
theorem drop_flatMap {α β : Type} {f : α → List β} {width : Nat}
    (hwidth : ∀ a, (f a).length = width) (pieces : List α) (k : Nat) :
    (pieces.flatMap f).drop (width * k) = (pieces.drop k).flatMap f := by
  induction k generalizing pieces with
  | zero => rfl
  | succ k ih =>
    cases pieces with
    | nil => simp
    | cons a rest =>
      rw [Nat.mul_succ, Nat.add_comm, ← List.drop_drop, List.flatMap_cons,
        List.drop_left' (hwidth a), ih, List.drop_succ_cons]

/-- The address at the left of a row. -/
def label (row : String) : List Char := row.toList.take 6

/-- The two characters that a row has in a column. -/
def cell (row : String) (column : Nat) : List Char := (row.toList.drop (7 + 3 * column)).take 2

theorem label_row {start : Nat} (h : start < 65536) (bytes : List UInt8) :
    label (row start bytes) = '0' :: 'x' :: Hex.padded 4 start := by
  have width : (Hex.padded 4 start).length = 4 := Hex.length_padded h
  rw [label, row, String.toList_ofList]
  exact List.take_left' (by simp [width])

theorem cell_row {start : Nat} (h : start < 65536) (bytes : List UInt8) {column : Nat}
    (inside : column < bytes.length) :
    cell (row start bytes) column = Hex.padded 2 bytes[column].toNat := by
  have address : ('0' :: 'x' :: Hex.padded 4 start).length = 6 := by
    rw [List.length_cons, List.length_cons, Hex.length_padded h]
  have three (b : UInt8) : (' ' :: Hex.padded 2 b.toNat).length = 3 := by
    rw [List.length_cons, Hex.length_padded_byte]
  have place : 7 + 3 * column = 6 + (3 * column + 1) := by omega
  rw [cell, row, String.toList_ofList, place, ← List.drop_drop, List.drop_left' address,
    ← List.drop_drop, drop_flatMap three, List.drop_eq_getElem_cons inside, List.flatMap_cons]
  exact List.take_left' (Hex.length_padded_byte _)

/-- **A dump shows every byte where its address says**: the row is the address divided by sixteen,
the column is what remains, and the row is labelled with the address of its first byte. -/
theorem byte_shown {bytes : List UInt8} {addr : Nat} (inside : addr < bytes.length)
    (short : addr < 65536) :
    ∃ text, (rows bytes)[addr / 16]? = some text
      ∧ label text = '0' :: 'x' :: Hex.padded 4 (16 * (addr / 16))
      ∧ cell text (addr % 16) = Hex.padded 2 bytes[addr].toNat := by
  have begins : 16 * (addr / 16) < bytes.length := by omega
  have starts : 16 * (addr / 16) < 65536 := by omega
  have column : addr % 16 < ((bytes.drop (16 * (addr / 16))).take 16).length := by
    rw [List.length_take, List.length_drop]
    omega
  have byte : ((bytes.drop (16 * (addr / 16))).take 16)[addr % 16] = bytes[addr] := by
    rw [List.getElem_take, List.getElem_drop]
    congr 1
    omega
  refine ⟨row (16 * (addr / 16)) ((bytes.drop (16 * (addr / 16))).take 16),
    (getElem?_rows bytes _).trans (if_pos begins), label_row starts _, ?_⟩
  rw [cell_row starts _ column, byte]

end Chip8.HexDump
