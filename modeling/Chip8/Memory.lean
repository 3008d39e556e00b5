import Chip8.Opcode
import Chip8.Error

/-!
# Memory

4096 bytes. `get`, `set` and `word` take any sixteen-bit address and use its low twelve bits, so
they are total and addresses wrap at the top. `slice?` and `write` take a stretch of memory
literally: they refuse one that runs off the end. A `get` sees what a `set` wrote if the two
addresses agree in their low twelve bits (`get_set_self`), and nothing of it otherwise
(`get_set_of_ne`).

The layout is the usual one: sixteen glyphs of five bytes from address 0, nothing up to `0x1FF`,
the program from `0x200`.
-/

set_option autoImplicit false

namespace Chip8

/-- Where bytes are read from: the bytes it yields, and the reason why it then fails, if it
does. Bytes read before a failure are lost. -/
structure Source where
  bytes : List UInt8
  failure : Option String := none

namespace Source

/-- All bytes, or the failure. -/
def read (source : Source) : Except Error (List UInt8) :=
  match source.failure with
  | some reason => .error (.io reason)
  | none => .ok source.bytes

end Source

/-- The machine's bytes. -/
structure Memory where
  bytes : Vector UInt8 4096
  deriving DecidableEq

namespace Memory

def size : Nat := 4096

/-- Where programs are loaded, and where they start. -/
def programStart : UInt16 := 0x200

def zeroed : Memory := ⟨Vector.replicate 4096 0⟩

/-- One byte; only the low twelve bits of the address count. -/
def get (m : Memory) (addr : UInt16) : UInt8 :=
  m.bytes.get (Address.ofWord addr)

/-- One byte written; only the low twelve bits of the address count. -/
def set (m : Memory) (addr : UInt16) (value : UInt8) : Memory :=
  ⟨m.bytes.set (Address.ofWord addr).val value (Address.ofWord addr).isLt⟩

theorem get_eq_getElem (m : Memory) (addr : UInt16) : m.get addr = m.bytes[Address.ofWord addr] :=
  rfl

/-- A byte reads back where it was written. -/
@[simp] theorem get_set_self (m : Memory) (addr : UInt16) (value : UInt8) :
    (m.set addr value).get addr = value := by
  simp [get_eq_getElem, set]

/-- A write leaves the bytes at all other places as they were. -/
theorem get_set_of_ne (m : Memory) {a b : UInt16} (value : UInt8)
    (h : Address.ofWord a ≠ Address.ofWord b) : (m.set a value).get b = m.get b := by
  have h' : (Address.ofWord a).val ≠ (Address.ofWord b).val := fun e => h (Fin.ext e)
  simp [get_eq_getElem, set, h']

/-- Two bytes, the first the more significant. -/
def word (m : Memory) (addr : UInt16) : UInt16 :=
  (m.get addr).toUInt16 * 256 + (m.get (addr + 1)).toUInt16

/-- The bytes at `addr`, `addr + 1`, and so on, `count` of them, each address wrapped. -/
def getAll (m : Memory) (addr : UInt16) (count : Nat) : List UInt8 :=
  (List.range count).map fun k => m.get (addr + UInt16.ofNat k)

/-- Bytes written at `addr`, `addr + 1`, and so on, each address wrapped. -/
def setAll (m : Memory) (addr : UInt16) : List UInt8 → Memory
  | [] => m
  | b :: rest => (m.set addr b).setAll (addr + 1) rest

/-- The `length` bytes from `addr` on, if there are that many. The address is not wrapped. -/
def slice? (m : Memory) (addr : UInt16) (length : Nat) : Option (List UInt8) :=
  if addr.toNat + length ≤ size then
    some ((m.bytes.toList.drop addr.toNat).take length)
  else
    none

/-- The given bytes laid over memory from `start` on; what does not fit is left out. -/
def overlay (m : Memory) (start : Nat) : List UInt8 → Memory
  | [] => m
  | b :: rest => overlay ⟨m.bytes.setIfInBounds start b⟩ (start + 1) rest

/-- Writes a block, refusing one that would run off the end. An empty block still has to name a
place in memory or its end. -/
def write (m : Memory) (data : List UInt8) (addr : UInt16) : Except Error Memory :=
  let room := size - addr.toNat
  if room < data.length then
    .error (.romTooLarge data.length room)
  else if size < addr.toNat then
    .error (.outOfRange addr.toNat data.length)
  else
    .ok (m.overlay addr.toNat data)

/-- Writes all that `source` yields, and says how many bytes that were. Nothing is written if the
source fails. -/
def writeFrom (m : Memory) (source : Source) (addr : UInt16) : Except Error (Nat × Memory) := do
  let data ← source.read
  let written ← m.write data addr
  return (data.length, written)

/-- Where the glyphs are. -/
def fontStart : UInt16 := 0

/-- Five rows of eight pixels for each hexadecimal digit, the top row first. -/
def font : List UInt8 := [
  0xF0, 0x90, 0x90, 0x90, 0xF0, -- 0
  0x20, 0x60, 0x20, 0x20, 0x70, -- 1
  0xF0, 0x10, 0xF0, 0x80, 0xF0, -- 2
  0xF0, 0x10, 0xF0, 0x10, 0xF0, -- 3
  0x90, 0x90, 0xF0, 0x10, 0x10, -- 4
  0xF0, 0x80, 0xF0, 0x10, 0xF0, -- 5
  0xF0, 0x80, 0xF0, 0x90, 0xF0, -- 6
  0xF0, 0x10, 0x20, 0x40, 0x40, -- 7
  0xF0, 0x90, 0xF0, 0x90, 0xF0, -- 8
  0xF0, 0x90, 0xF0, 0x10, 0xF0, -- 9
  0xF0, 0x90, 0xF0, 0x90, 0x90, -- A
  0xE0, 0x90, 0xE0, 0x90, 0xE0, -- B
  0xF0, 0x80, 0x80, 0x80, 0xF0, -- C
  0xE0, 0x90, 0x90, 0x90, 0xE0, -- D
  0xF0, 0x80, 0xF0, 0x80, 0xF0, -- E
  0xF0, 0x80, 0xF0, 0x80, 0x80] -- F

/-- Where the glyph for the low digit of `value` starts. -/
def glyphAddress (value : UInt8) : UInt16 :=
  fontStart + UInt16.ofNat (value.toNat % 16 * 5)

/-- Memory before a program is loaded: the font, and zeros. -/
def initial : Memory := zeroed.overlay fontStart.toNat font

/-- The largest program that fits. -/
def maxProgramSize : Nat := size - programStart.toNat

/-- Loads a program at `programStart` and says how long it is. -/
def loadProgram (m : Memory) (source : Source) : Except Error (Nat × Memory) :=
  m.writeFrom source programStart

end Memory

end Chip8
