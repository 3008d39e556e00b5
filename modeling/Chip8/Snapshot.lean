import Chip8.State
import Chip8.Memory.HexDump

/-!
# Snapshots

A read-only copy of the machine for whoever shows it, with the rows of text the panels are made
of. Taking one clears the changed flags of the registers, so a snapshot marks what was written
since the one before it; it has no other effect.
-/

set_option autoImplicit false

namespace Chip8

structure Snapshot where
  last : Option Listing
  opcode : Opcode
  pc : UInt16
  index : UInt16
  registers : Vector UInt8 16
  /-- written since the previous snapshot -/
  changed : Vector Bool 16
  stack : Vector UInt16 16
  depth : Nat
  memory : Memory
  /-- the hex dump row that shows the program counter -/
  pcRow : Nat
  frame : FrameBuffer
  width : Nat
  height : Nat
  delayTimer : UInt8
  soundTimer : UInt8
  soundActive : Bool
  keys : Vector Bool 16
  deriving DecidableEq

namespace State

/-- What a snapshot of the state shows. -/
def view (s : State) : Snapshot where
  last := s.last
  opcode := s.opcode
  pc := s.pc
  index := s.index
  registers := s.registers.values
  changed := s.registers.changed
  stack := s.stack.slots
  depth := s.stack.depth
  memory := s.memory
  pcRow := HexDump.rowOf s.pc
  frame := s.frame
  width := FrameBuffer.width
  height := FrameBuffer.height
  delayTimer := s.delayTimer
  soundTimer := s.soundTimer
  soundActive := s.soundActive
  keys := s.keypad.keys

/-- The state after a snapshot was taken. -/
def seen (s : State) : State := { s with registers := s.registers.unmarked }

/-- Takes a snapshot. -/
def snapshot (s : State) : Snapshot × State := (s.view, s.seen)

end State

namespace Snapshot

/-- `V0:   5`, or `V0: | 5 |` for a register that was just written. -/
def registerRows (s : Snapshot) : List String :=
  (List.finRange 16).map fun x =>
    let value := Hex.upper 1 (s.registers.get x).toNat
    if s.changed.get x then s!"{Instruction.registerName x}: | {value} |"
    else s!"{Instruction.registerName x}:   {value}"

/-- The sixteen slots and the stack pointer. -/
def stackRows (s : Snapshot) : List String :=
  (List.finRange 16).map (fun slot =>
    s!"{Hex.upper 1 slot.val}: 0x{Hex.upper 4 (s.stack.get slot).toNat}") ++
  [s!"SP: {Hex.upper 1 s.depth}"]

def memoryRows (s : Snapshot) : List String := HexDump.rows s.memory.bytes.toList

def keyRows (s : Snapshot) : List String := Keypad.rows s.keys

/-- The opcode, the last instruction if there was one, and the remaining registers. -/
def infoRows (s : Snapshot) : List String :=
  let instruction := match s.last with
    | none => []
    | some l => [s!"Name:     {l.mnemonic}", s!"Type: {l.category.name}", s!"Desc: {l.description}"]
  [s!"OPCODE: 0x{Hex.upper 4 s.opcode.toNat}"] ++ instruction ++
    [ s!"PC: {s.pc.toNat}",
      s!"Index: {s.index.toNat}",
      s!"Delay: {s.delayTimer.toNat}  Sound: {s.soundTimer.toNat}",
      s!"Sound: {s.soundActive}" ]

end Snapshot

end Chip8
