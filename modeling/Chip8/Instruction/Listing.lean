import Chip8.Text.Hex
import Chip8.Instruction

/-!
# How an instruction is shown

Each instruction has a mnemonic, the pattern of its opcode with `X`, `Y` and `N` for operand
digits; a category, the family it is usually tabulated under; and a description, a sentence with
the operands filled in. A `Listing` is what one fetch of an opcode looks like on paper: where it
came from, the word itself and these three.
-/

set_option autoImplicit false

namespace Chip8

/-- Instruction families, as usually tabulated. -/
inductive Category where
  | call | display | flow | cond | const | assign | bitOp | math | memory | rand | keyOp
  | timer | sound | bcd | unknown
  deriving DecidableEq, Repr

namespace Category

def name : Category → String
  | call => "Call"
  | display => "Display"
  | flow => "Flow"
  | cond => "Cond"
  | const => "Const"
  | assign => "Assig"
  | bitOp => "BitOp"
  | math => "Math"
  | memory => "MEM"
  | rand => "Rand"
  | keyOp => "KeyOp"
  | timer => "Timer"
  | sound => "Sound"
  | bcd => "BCD"
  | unknown => "Unknown"

end Category

namespace Instruction

/-- The pattern of the opcode, such as `8XY4`. -/
def mnemonic : Instruction → String
  | machineCall _ => "0NNN"
  | clearScreen => "00E0"
  | ret => "00EE"
  | jump _ => "1NNN"
  | call _ => "2NNN"
  | skipEqualConstant .. => "3XNN"
  | skipNotEqualConstant .. => "4XNN"
  | skipEqualRegister .. => "5XY0"
  | setRegister .. => "6XNN"
  | addToRegister .. => "7XNN"
  | copyRegister .. => "8XY0"
  | bitOr .. => "8XY1"
  | bitAnd .. => "8XY2"
  | bitXor .. => "8XY3"
  | add .. => "8XY4"
  | subtractForward .. => "8XY5"
  | rightShift .. => "8XY6"
  | subtractBackward .. => "8XY7"
  | leftShift .. => "8XYE"
  | skipNotEqualRegister .. => "9XY0"
  | setIndex _ => "ANNN"
  | jumpWithOffset _ => "BNNN"
  | random .. => "CXNN"
  | draw .. => "DXYN"
  | skipIfPressed _ => "EX9E"
  | skipIfNotPressed _ => "EXA1"
  | copyDelayToRegister _ => "FX07"
  | waitForKey _ => "FX0A"
  | copyRegisterToDelay _ => "FX15"
  | copyRegisterToSound _ => "FX18"
  | addToIndex _ => "FX1E"
  | pointAtGlyph _ => "FX29"
  | storeDecimal _ => "FX33"
  | storeRegisters _ => "FX55"
  | loadRegisters _ => "FX65"
  | unknown _ => "????"

def category : Instruction → Category
  | machineCall _ => .call
  | clearScreen | draw .. => .display
  | ret | jump _ | call _ | jumpWithOffset _ => .flow
  | skipEqualConstant .. | skipNotEqualConstant ..
  | skipEqualRegister .. | skipNotEqualRegister .. => .cond
  | setRegister .. | addToRegister .. => .const
  | copyRegister .. => .assign
  | bitOr .. | bitAnd .. | bitXor .. | rightShift .. | leftShift .. => .bitOp
  | add .. | subtractForward .. | subtractBackward .. => .math
  | setIndex _ | addToIndex _ | pointAtGlyph _ | storeRegisters _ | loadRegisters _ => .memory
  | random .. => .rand
  | skipIfPressed _ | skipIfNotPressed _ | waitForKey _ => .keyOp
  | copyDelayToRegister _ | copyRegisterToDelay _ => .timer
  | copyRegisterToSound _ => .sound
  | storeDecimal _ => .bcd
  | unknown _ => .unknown

/-- A register by name: `V` and one digit. -/
def registerName (x : Register) : String := "V" ++ Hex.upper 1 x.val

private def address (a : Address) : String := "0x" ++ Hex.upper 3 a.val

private def constant (nn : UInt8) : String := "0x" ++ Hex.upper 2 nn.toNat

private def v (x : Register) : String := registerName x

/-- What the instruction does, with its operands filled in. -/
def description : Instruction → String
  | machineCall a => s!"Calls machine code routine at {address a}. Not implemented."
  | clearScreen => "Clears the screen."
  | ret => "Returns from a subroutine."
  | jump a => s!"Jumps to address {address a}."
  | call a => s!"Calls subroutine at {address a}."
  | skipEqualConstant x nn => s!"Skips the next instruction if {v x} == {constant nn}."
  | skipNotEqualConstant x nn => s!"Skips the next instruction if {v x} != {constant nn}."
  | skipEqualRegister x y => s!"Skips the next instruction if {v x} == {v y}."
  | setRegister x nn => s!"Sets {v x} to {constant nn}."
  | addToRegister x nn => s!"Adds {constant nn} to {v x} (carry flag is not changed)."
  | copyRegister x y => s!"Sets {v x} to the value of {v y}."
  | bitOr x y => s!"Sets {v x} to {v x} | {v y}."
  | bitAnd x y => s!"Sets {v x} to {v x} & {v y}."
  | bitXor x y => s!"Sets {v x} to {v x} ^ {v y}."
  | add x y => s!"Adds {v y} to {v x}. VF is set to 1 on carry, 0 otherwise."
  | subtractForward x y =>
    s!"Subtracts {v y} from {v x}. VF is set to 0 on borrow, 1 otherwise."
  | rightShift x _ => s!"Shifts {v x} right by one. VF is set to the bit shifted out."
  | subtractBackward x y =>
    s!"Sets {v x} to {v y} - {v x}. VF is set to 0 on borrow, 1 otherwise."
  | leftShift x _ => s!"Shifts {v x} left by one. VF is set to the bit shifted out."
  | skipNotEqualRegister x y => s!"Skips the next instruction if {v x} != {v y}."
  | setIndex a => s!"Sets I to the address {address a}."
  | jumpWithOffset a => s!"Jumps to the address {address a} plus V0."
  | random x nn => s!"Sets {v x} to a random number & {constant nn}."
  | draw x y n =>
    s!"Draws an 8x{n.val} sprite from I at ({v x}, {v y}). VF is set on collision."
  | skipIfPressed x => s!"Skips the next instruction if the key in {v x} is pressed."
  | skipIfNotPressed x => s!"Skips the next instruction if the key in {v x} isn't pressed."
  | copyDelayToRegister x => s!"Sets {v x} to the value of the delay timer."
  | waitForKey x => s!"Waits for a key press and stores it in {v x}."
  | copyRegisterToDelay x => s!"Sets the delay timer to {v x}."
  | copyRegisterToSound x => s!"Sets the sound timer to {v x}."
  | addToIndex x => s!"Adds {v x} to I (carry flag is not changed)."
  | pointAtGlyph x => s!"Sets I to the font glyph for the digit in {v x}."
  | storeDecimal x => s!"Stores the decimal digits of {v x} at I, I+1 and I+2."
  | storeRegisters x => s!"Stores V0 to {v x} in memory starting at I."
  | loadRegisters x => s!"Fills V0 to {v x} from memory starting at I."
  | unknown op => s!"Unknown opcode 0x{Hex.upper 4 op.toNat}. Ignored."

end Instruction

/-- What one fetched opcode looks like to a reader: the record kept of the last instruction. All
that it shows follows from the address and the word. -/
structure Listing where
  /-- where the opcode was fetched from -/
  pc : UInt16
  opcode : Opcode
  deriving DecidableEq, Repr

namespace Listing

def instruction (l : Listing) : Instruction := Instruction.decode l.opcode

def mnemonic (l : Listing) : String := l.instruction.mnemonic

def category (l : Listing) : Category := l.instruction.category

def description (l : Listing) : String := l.instruction.description

/-- Five lines: address, word, name, category and description. -/
def text (l : Listing) : String :=
  s!"PC: {l.pc.toNat}\n" ++
  s!"OPCODE: 0x{Hex.upper 4 l.opcode.toNat}\n" ++
  s!"Name:     {l.mnemonic}\n" ++
  s!"Type: {l.category.name}\n" ++
  s!"Desc: {l.description}\n"

end Listing

end Chip8
