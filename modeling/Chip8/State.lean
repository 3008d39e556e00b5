import Chip8.Instruction.Listing
import Chip8.Memory
import Chip8.Registers
import Chip8.CallStack
import Chip8.Keypad
import Chip8.FrameBuffer

/-!
# The machine state

Everything an instruction can read or write, the two timers, the keypad, and what is remembered
about the last instruction for whoever shows the machine.

The program counter, the index register and the call stack hold full words. That the program
counter stays below 4096 is no part of the type: it is what every run keeps.
-/

set_option autoImplicit false

namespace Chip8

structure State where
  memory : Memory
  registers : Registers
  /-- `I`; only its low twelve bits address memory -/
  index : UInt16
  /-- the address of the next instruction -/
  pc : UInt16
  stack : CallStack
  delayTimer : UInt8
  soundTimer : UInt8
  keypad : Keypad
  frame : FrameBuffer
  /-- the frame buffer was drawn on and this has not been reported yet -/
  redraw : Bool
  /-- the last opcode fetched, 0 before the first -/
  opcode : Opcode
  /-- the last instruction, whether or not it could be executed -/
  last : Option Listing
  deriving DecidableEq

namespace State

/-- A machine with nothing loaded. -/
def initial : State where
  memory := Memory.initial
  registers := Registers.zeroed
  index := 0
  pc := Memory.programStart
  stack := CallStack.empty
  delayTimer := 0
  soundTimer := 0
  keypad := Keypad.idle
  frame := FrameBuffer.blank
  redraw := false
  opcode := 0
  last := none

/-- The state with a program loaded, and the program's length. Nothing of what was there before
is left; if loading fails there is no new state. -/
def load (source : Source) : Except Error (Nat × State) := do
  let (length, memory) ← initial.memory.loadProgram source
  return (length, { initial with memory := memory })

/-- One tick: both timers move a step toward zero and stay there. -/
def tickTimers (s : State) : State :=
  { s with delayTimer := s.delayTimer - min s.delayTimer 1,
           soundTimer := s.soundTimer - min s.soundTimer 1 }

/-- The machine beeps while the sound timer runs. -/
def soundActive (s : State) : Bool := s.soundTimer ≠ 0

def applyKey (s : State) (e : KeyEvent) (now : Nat) : State × Bool :=
  let (keypad, changed) := s.keypad.apply e now
  ({ s with keypad := keypad }, changed)

def expireKeys (s : State) (window now : Nat) : State × Bool :=
  let (keypad, changed) := s.keypad.expire window now
  ({ s with keypad := keypad }, changed)

def clearKeys (s : State) : State × Bool :=
  let (keypad, changed) := s.keypad.clear
  ({ s with keypad := keypad }, changed)

/-- Writes a register. -/
def setRegister (s : State) (x : Register) (value : UInt8) : State :=
  { s with registers := s.registers.write x value }

end State

end Chip8
