import Mathlib.Data.List.Basic
import Chip8.Snapshot
import Chip8.Proofs.Memory.HexDump

/-!
# Reading a hex dump back

A dump is a text for people, and nothing here reads it. It could be read all the same: `read?` goes
through the rows and gives the bytes, and what it gives is what was dumped (`read?_rows`). So a dump
loses nothing, and different bytes have different dumps.

The reader knows the form of a row and not how it came about: `0x`, digits up to the first blank, and
then for each byte a blank and two digits. That is enough however wide the address is, since digits
are no blanks.
-/

set_option autoImplicit false

namespace Chip8.HexDump

/-! ## The reader -/

/-- The bytes of a row after its address. -/
def readCells? : List Char → Option (List UInt8)
  | [] => some []
  | ' ' :: high :: low :: rest =>
    (Hex.ofDigits? [high, low]).bind fun byte => (readCells? rest).map (UInt8.ofNat byte :: ·)
  | _ => none

/-- The address and the bytes of a row. -/
def readRow? (text : String) : Option (Nat × List UInt8) :=
  match text.toList with
  | '0' :: 'x' :: rest =>
    (Hex.ofDigits? (rest.takeWhile (· ≠ ' '))).bind fun start =>
      (readCells? (rest.dropWhile (· ≠ ' '))).map (start, ·)
  | _ => none

/-- The bytes of all rows, one row after the other. -/
def read? (rows : List String) : Option (List UInt8) :=
  (rows.mapM readRow?).map fun parts => parts.flatMap Prod.snd

/-! ## What is written can be read -/

theorem readCells?_cons (b : UInt8) (rest : List Char) :
    readCells? (' ' :: Hex.padded 2 b.toNat ++ rest) = (readCells? rest).map (b :: ·) := by
  obtain ⟨high, low, digits⟩ := List.length_eq_two.mp (Hex.length_padded_byte b)
  have worth := Hex.ofDigits?_padded 2 b.toNat
  rw [digits] at worth ⊢
  show (Hex.ofDigits? [high, low]).bind _ = _
  rw [worth, Option.bind_some, UInt8.ofNat_toNat]
  rfl

theorem readCells?_flatMap (bytes : List UInt8) :
    readCells? (bytes.flatMap fun b => ' ' :: Hex.padded 2 b.toNat) = some bytes := by
  induction bytes with
  | nil => rfl
  | cons b rest ih => rw [List.flatMap_cons, readCells?_cons, ih, Option.map_some]

theorem ne_blank_of_mem_padded {width n : Nat} (wide : 0 < width) {c : Char}
    (here : c ∈ Hex.padded width n) : c ≠ ' ' := by
  rintro rfl
  exact absurd ((Hex.numeral_padded wide n).upper ' ' here) (by decide)

/-- The address ends where the cells begin, whatever its width. -/
theorem readRow?_row (start : Nat) (bytes : List UInt8) :
    readRow? (row start bytes) = some (start, bytes) := by
  have address : ∀ c ∈ Hex.padded 4 start, decide (c ≠ ' ') = true := fun c here =>
    decide_eq_true (ne_blank_of_mem_padded (by decide) here)
  have cells : (bytes.flatMap fun b => ' ' :: Hex.padded 2 b.toNat).takeWhile (· ≠ ' ') = []
      ∧ (bytes.flatMap fun b => ' ' :: Hex.padded 2 b.toNat).dropWhile (· ≠ ' ')
        = bytes.flatMap fun b => ' ' :: Hex.padded 2 b.toNat := by
    cases bytes <;> exact ⟨rfl, rfl⟩
  simp only [readRow?, row, String.toList_ofList, List.cons_append,
    List.takeWhile_append_of_pos address, List.dropWhile_append_of_pos address, cells,
    List.append_nil, Hex.ofDigits?_padded, readCells?_flatMap, Option.bind_some, Option.map_some]

theorem read?_cons {text : String} {start : Nat} {part bytes : List UInt8} {rows : List String}
    (first : readRow? text = some (start, part)) (others : read? rows = some bytes) :
    read? (text :: rows) = some (part ++ bytes) := by
  obtain ⟨parts, parsed, rfl⟩ := Option.map_eq_some_iff.mp others
  simp [read?, first, parsed]

theorem read?_rowsFrom (start : Nat) (bytes : List UInt8) :
    read? (rowsFrom start bytes) = some bytes := by
  fun_induction rowsFrom start bytes with
  | case1 => rfl
  | case2 start b rest ih =>
    rw [read?_cons (readRow?_row _ _) ih, List.take_append_drop]

theorem read?_rows (bytes : List UInt8) : read? (rows bytes) = some bytes := read?_rowsFrom 0 bytes

theorem rows_injective : Function.Injective rows := by
  intro bytes other same
  have back := read?_rows bytes
  rw [same, read?_rows] at back
  exact (Option.some.inj back).symm

/-! ## Rows and columns -/

theorem length_rowsFrom (start : Nat) (bytes : List UInt8) :
    (rowsFrom start bytes).length = (bytes.length + 15) / 16 := by
  fun_induction rowsFrom start bytes with
  | case1 => rfl
  | case2 start b rest ih =>
    rw [List.length_cons, ih, List.length_drop, rowBytes, List.length_cons]
    omega

theorem rowOf_eq {addr : UInt16} (inside : addr.toNat < 4096) : rowOf addr = addr.toNat / 16 := by
  show addr.toNat % 4096 / 16 = addr.toNat / 16
  rw [Nat.mod_eq_of_lt inside]

/-- The parts of a row. -/
theorem exists_cells {bytes : List UInt8} {r : Nat} {text : String}
    (here : (rows bytes)[r]? = some text) :
    ∃ (address : List Char) (cells : List (List Char)),
      text.toList = '0' :: 'x' :: address ++ cells.flatMap (' ' :: ·)
        ∧ Hex.Numeral 4 (16 * r) address
        ∧ cells.length = min 16 (bytes.length - 16 * r)
        ∧ ∀ k cell, cells[k]? = some cell →
            ∃ b, bytes[16 * r + k]? = some b ∧ cell.length = 2 ∧ Hex.Numeral 2 b.toNat cell := by
  rw [getElem?_rows] at here
  split at here
  next inside =>
    cases here
    refine ⟨Hex.padded 4 (16 * r),
      ((bytes.drop (16 * r)).take 16).map fun b => Hex.padded 2 b.toNat, ?_,
      Hex.numeral_padded (by decide) _, ?_, fun k cell shown => ?_⟩
    · rw [row, String.toList_ofList, List.flatMap_map]
      rfl
    · rw [List.length_map, List.length_take, List.length_drop]
    · rw [List.getElem?_map] at shown
      obtain ⟨b, byte, rfl⟩ := Option.map_eq_some_iff.mp shown
      obtain ⟨short, -⟩ := List.getElem?_eq_some_iff.mp byte
      rw [List.length_take] at short
      rw [List.getElem?_take_of_lt (by omega), List.getElem?_drop] at byte
      exact ⟨b, byte, Hex.length_padded_byte b, Hex.numeral_padded (by decide) _⟩
  next => cases here

/-- A byte is read from the row and the column that its address names. -/
theorem exists_part {bytes : List UInt8} {a : Nat} (inside : a < bytes.length) :
    ∃ text part, (rows bytes)[a / 16]? = some text
      ∧ readRow? text = some (16 * (a / 16), part) ∧ part[a % 16]? = some bytes[a] := by
  refine ⟨_, _, (getElem?_rows bytes (a / 16)).trans (if_pos ?_), readRow?_row _ _, ?_⟩
  · show 16 * (a / 16) < bytes.length
    omega
  · show ((bytes.drop (16 * (a / 16))).take 16)[a % 16]? = some bytes[a]
    rw [List.getElem?_take_of_lt (Nat.mod_lt _ (by decide)), List.getElem?_drop, Nat.div_add_mod,
      List.getElem?_eq_getElem inside]

/-- **A hex dump loses nothing.** Any bytes, however many, take one row for each sixteen of them and
one for what is left. Row `r` is `0x` and the number `16 * r`, in four digits or as many as it needs;
then come the bytes from `16 * r` on, up to sixteen of them and none past the end, each of them a
blank and two digits; all digits are upper-case. Read back row by row, the dump gives the bytes, so
no other bytes have the same rows. The byte at an address is found in the row of the address divided
by sixteen, in the column of what remains; and this is the row that `rowOf` names for an address
below 4096. -/
theorem dump_lossless (bytes : List UInt8) :
    (rows bytes).length = (bytes.length + 15) / 16
      ∧ (∀ r text, (rows bytes)[r]? = some text →
          ∃ (address : List Char) (cells : List (List Char)),
            text.toList = '0' :: 'x' :: address ++ cells.flatMap (' ' :: ·)
              ∧ Hex.Numeral 4 (16 * r) address
              ∧ cells.length = min 16 (bytes.length - 16 * r)
              ∧ ∀ k cell, cells[k]? = some cell →
                  ∃ b, bytes[16 * r + k]? = some b
                    ∧ cell.length = 2 ∧ Hex.Numeral 2 b.toNat cell)
      ∧ read? (rows bytes) = some bytes
      ∧ (∀ other, rows other = rows bytes → other = bytes)
      ∧ (∀ (a : Nat) (inside : a < bytes.length),
          ∃ text part, (rows bytes)[a / 16]? = some text
            ∧ readRow? text = some (16 * (a / 16), part) ∧ part[a % 16]? = some bytes[a])
      ∧ ∀ addr : UInt16, addr.toNat < 4096 → rowOf addr = addr.toNat / 16 :=
  ⟨length_rowsFrom 0 bytes, fun _ _ => exists_cells, read?_rows bytes,
    fun _ same => rows_injective same, fun _ => exists_part, fun _ => rowOf_eq⟩

/-- Eighteen bytes: the last row has two, and the address of the last byte names it. -/
theorem dump_lossless_shortRow :
    let bytes : List UInt8 := List.replicate 16 0 ++ [0xA5, 0x0F]
    (rows bytes).length = 2
      ∧ read? (rows bytes) = some bytes
      ∧ (17 < bytes.length ∧ ∃ text part, (rows bytes)[1]? = some text
          ∧ readRow? text = some (16, part) ∧ part[1]? = some 0x0F
          ∧ ∃ (address : List Char) (cells : List (List Char)),
              text.toList = '0' :: 'x' :: address ++ cells.flatMap (' ' :: ·)
                ∧ Hex.Numeral 4 16 address ∧ cells.length = 2)
      ∧ ((17 : UInt16).toNat < 4096 ∧ rowOf 17 = 1) := by
  intro bytes
  obtain ⟨count, form, back, -, places, row⟩ := dump_lossless bytes
  obtain ⟨text, part, here, parsed, byte⟩ := places 17 (by decide)
  obtain ⟨address, cells, spelled, number, width, -⟩ := form 1 text here
  exact ⟨count.trans (by decide), back,
    ⟨by decide, text, part, here, parsed, byte, address, cells, spelled, number, width⟩,
    by decide, row 17 (by decide)⟩

end Chip8.HexDump

namespace Chip8.Snapshot

/-- The memory that a snapshot shows can be read off its rows. -/
theorem read?_memoryRows (s : Snapshot) :
    HexDump.read? s.memoryRows = some s.memory.bytes.toList :=
  HexDump.read?_rows _

end Chip8.Snapshot
