/-!
# Opcodes

An opcode is the sixteen-bit word an instruction is stored as. Its four nibbles pick the
operation and carry the operands:

* `x` and `y`, the second and third nibble, number registers,
* `n`, the last nibble, is a sprite height,
* `nn`, the low byte, is a constant,
* `nnn`, the low twelve bits, is an address.

Register numbers and addresses are `Fin` types, so an operand is in range by its type.
-/

set_option autoImplicit false

namespace Chip8

/-- One of the sixteen general registers `V0` to `VF`. -/
abbrev Register := Fin 16

/-- The one reason why every numeral of a nibble is in range. -/
instance neZeroSixteen : @NeZero Nat Zero.ofOfNat0 16 := ⟨by decide⟩

/-- A position in the 4096 bytes of memory. -/
abbrev Address := Fin 4096

namespace Address

/-- Only the low twelve bits of a word address memory. -/
def ofWord (w : UInt16) : Address :=
  ⟨w.toNat % 4096, Nat.mod_lt _ (by decide)⟩

def toWord (a : Address) : UInt16 :=
  UInt16.ofNat a.val

theorem toNat_toWord (a : Address) : a.toWord.toNat = a.val := by
  have := a.isLt
  simp only [toWord, UInt16.toNat_ofNat']
  omega

/-- An address survives the way through a word. -/
@[simp] theorem ofWord_toWord (a : Address) : ofWord a.toWord = a := by
  apply Fin.ext
  have := a.isLt
  simp only [ofWord, toNat_toWord]
  omega

end Address

/-- The sixteen-bit word of one instruction. -/
abbrev Opcode := UInt16

namespace Opcode

/-- The top nibble, which names the family of the operation. -/
def family (op : Opcode) : Fin 16 :=
  ⟨op.toNat / 4096 % 16, Nat.mod_lt _ (by decide)⟩

def x (op : Opcode) : Register :=
  ⟨op.toNat / 256 % 16, Nat.mod_lt _ (by decide)⟩

def y (op : Opcode) : Register :=
  ⟨op.toNat / 16 % 16, Nat.mod_lt _ (by decide)⟩

def n (op : Opcode) : Fin 16 :=
  ⟨op.toNat % 16, Nat.mod_lt _ (by decide)⟩

def nn (op : Opcode) : UInt8 :=
  op.toUInt8

def nnn (op : Opcode) : Address :=
  Address.ofWord op

/-- The four nibbles, most significant first. -/
def nibbles (op : Opcode) : List (Fin 16) :=
  [op.family, op.x, op.y, op.n]

end Opcode

end Chip8
