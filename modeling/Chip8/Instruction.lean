import Chip8.Opcode

/-!
# Instructions

The thirty-five operations of the machine, and `decode`, which reads an opcode as one of them.
Every opcode decodes: a word that names no operation is `unknown`, which the interpreter skips.

`decode` looks at the top nibble first. Only the families `0`, `5`, `8`, `9`, `E` and `F` look
further, and each of them at one more field: family `0` at the whole word, families `5`, `8` and
`9` at the last nibble, families `E` and `F` at the low byte.
-/

set_option autoImplicit false

namespace Chip8

/-- A decoded opcode. Register operands are register numbers, not register values. -/
inductive Instruction where
  /-- `0NNN`: a routine in the host's own machine code. It does nothing here. -/
  | machineCall (target : Address)
  /-- `00E0` -/
  | clearScreen
  /-- `00EE` -/
  | ret
  /-- `1NNN` -/
  | jump (target : Address)
  /-- `2NNN` -/
  | call (target : Address)
  /-- `3XNN` -/
  | skipEqualConstant (x : Register) (nn : UInt8)
  /-- `4XNN` -/
  | skipNotEqualConstant (x : Register) (nn : UInt8)
  /-- `5XY0` -/
  | skipEqualRegister (x y : Register)
  /-- `6XNN` -/
  | setRegister (x : Register) (nn : UInt8)
  /-- `7XNN` -/
  | addToRegister (x : Register) (nn : UInt8)
  /-- `8XY0` -/
  | copyRegister (x y : Register)
  /-- `8XY1` -/
  | bitOr (x y : Register)
  /-- `8XY2` -/
  | bitAnd (x y : Register)
  /-- `8XY3` -/
  | bitXor (x y : Register)
  /-- `8XY4` -/
  | add (x y : Register)
  /-- `8XY5`: `VX - VY` -/
  | subtractForward (x y : Register)
  /-- `8XY6`; the second register plays no part -/
  | rightShift (x y : Register)
  /-- `8XY7`: `VY - VX` -/
  | subtractBackward (x y : Register)
  /-- `8XYE`; the second register plays no part -/
  | leftShift (x y : Register)
  /-- `9XY0` -/
  | skipNotEqualRegister (x y : Register)
  /-- `ANNN` -/
  | setIndex (target : Address)
  /-- `BNNN` -/
  | jumpWithOffset (target : Address)
  /-- `CXNN` -/
  | random (x : Register) (nn : UInt8)
  /-- `DXYN`: a sprite of `n` rows from memory at `I`, drawn at `(VX, VY)` -/
  | draw (x y : Register) (n : Fin 16)
  /-- `EX9E` -/
  | skipIfPressed (x : Register)
  /-- `EXA1` -/
  | skipIfNotPressed (x : Register)
  /-- `FX07` -/
  | copyDelayToRegister (x : Register)
  /-- `FX0A` -/
  | waitForKey (x : Register)
  /-- `FX15` -/
  | copyRegisterToDelay (x : Register)
  /-- `FX18` -/
  | copyRegisterToSound (x : Register)
  /-- `FX1E` -/
  | addToIndex (x : Register)
  /-- `FX29` -/
  | pointAtGlyph (x : Register)
  /-- `FX33` -/
  | storeDecimal (x : Register)
  /-- `FX55`: stores `V0` to `VX` -/
  | storeRegisters (x : Register)
  /-- `FX65`: loads `V0` to `VX` -/
  | loadRegisters (x : Register)
  | unknown (op : Opcode)
  deriving DecidableEq, Repr

namespace Instruction

/-- The `8` family, which the last nibble tells apart. -/
def decodeArithmetic (op : Opcode) : Instruction :=
  match op.n.val with
  | 0x0 => .copyRegister op.x op.y
  | 0x1 => .bitOr op.x op.y
  | 0x2 => .bitAnd op.x op.y
  | 0x3 => .bitXor op.x op.y
  | 0x4 => .add op.x op.y
  | 0x5 => .subtractForward op.x op.y
  | 0x6 => .rightShift op.x op.y
  | 0x7 => .subtractBackward op.x op.y
  | 0xE => .leftShift op.x op.y
  | _ => .unknown op

/-- The `E` family: skips that look at the keypad. -/
def decodeKeySkip (op : Opcode) : Instruction :=
  match op.nn.toNat with
  | 0x9E => .skipIfPressed op.x
  | 0xA1 => .skipIfNotPressed op.x
  | _ => .unknown op

/-- The `F` family, which the low byte tells apart. -/
def decodeTransfer (op : Opcode) : Instruction :=
  match op.nn.toNat with
  | 0x07 => .copyDelayToRegister op.x
  | 0x0A => .waitForKey op.x
  | 0x15 => .copyRegisterToDelay op.x
  | 0x18 => .copyRegisterToSound op.x
  | 0x1E => .addToIndex op.x
  | 0x29 => .pointAtGlyph op.x
  | 0x33 => .storeDecimal op.x
  | 0x55 => .storeRegisters op.x
  | 0x65 => .loadRegisters op.x
  | _ => .unknown op

/-- The instruction an opcode stands for. -/
def decode (op : Opcode) : Instruction :=
  match op.family.val with
  | 0x0 =>
    if op = 0x00E0 then .clearScreen
    else if op = 0x00EE then .ret
    else .machineCall op.nnn
  | 0x1 => .jump op.nnn
  | 0x2 => .call op.nnn
  | 0x3 => .skipEqualConstant op.x op.nn
  | 0x4 => .skipNotEqualConstant op.x op.nn
  | 0x5 => if op.n = 0 then .skipEqualRegister op.x op.y else .unknown op
  | 0x6 => .setRegister op.x op.nn
  | 0x7 => .addToRegister op.x op.nn
  | 0x8 => decodeArithmetic op
  | 0x9 => if op.n = 0 then .skipNotEqualRegister op.x op.y else .unknown op
  | 0xA => .setIndex op.nnn
  | 0xB => .jumpWithOffset op.nnn
  | 0xC => .random op.x op.nn
  | 0xD => .draw op.x op.y op.n
  | 0xE => decodeKeySkip op
  | _ => decodeTransfer op

end Instruction

end Chip8
