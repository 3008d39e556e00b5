import Chip8.Memory

/-!
# Memory without an end

Words that are used as addresses wrap twice: sums of words at 65536, and the words themselves at
4096. Since the one is a multiple of the other, both come to the same as if memory were repeated
without end and addresses were plain numbers. `byteAt` reads it that way, and the lemmas say that
reading a byte, a word and a block of bytes is reading at plain numbers. Nothing is said of writes.
-/

set_option autoImplicit false

namespace Chip8.Memory

/-- The byte at a number, with memory repeated without end. -/
def byteAt (m : Memory) (a : Nat) : UInt8 := m.bytes.get ⟨a % 4096, Nat.mod_lt _ (by decide)⟩

/-- The bytes at `start`, `start + 1`, and so on, `count` of them. -/
def block (m : Memory) (start count : Nat) : List UInt8 :=
  (List.range count).map fun k => m.byteAt (start + k)

variable (m : Memory) (addr : UInt16)

theorem byteAt_congr {a b : Nat} (h : a % 4096 = b % 4096) : m.byteAt a = m.byteAt b := by
  simp only [byteAt, h]

theorem get_eq_byteAt : m.get addr = m.byteAt addr.toNat := rfl

theorem get_add (k : Nat) : m.get (addr + UInt16.ofNat k) = m.byteAt (addr.toNat + k) := by
  rw [get_eq_byteAt]
  apply byteAt_congr
  rw [UInt16.toNat_add, UInt16.toNat_ofNat']
  omega

theorem getAll_eq_block (count : Nat) : m.getAll addr count = m.block addr.toNat count :=
  List.map_congr_left fun k _ => m.get_add addr k

/-- A word is two bytes, the more significant one first. -/
theorem toNat_word :
    (m.word addr).toNat
      = 256 * (m.byteAt addr.toNat).toNat + (m.byteAt (addr.toNat + 1)).toNat := by
  have high := (m.byteAt addr.toNat).toNat_lt
  have low := (m.byteAt (addr.toNat + 1)).toNat_lt
  have next : m.get (addr + 1) = m.byteAt (addr.toNat + 1) := m.get_add addr 1
  rw [word, next, get_eq_byteAt, UInt16.toNat_add, UInt16.toNat_mul, UInt8.toNat_toUInt16,
    UInt8.toNat_toUInt16]
  show ((m.byteAt addr.toNat).toNat * 256 % 65536 + _) % 65536 = _
  omega

end Chip8.Memory
