import Chip8.Text.Duration
import Chip8.Command
import Chip8.Interpreter
import Chip8.Update

/-!
# The journal

What the program logs, as data: an `Entry` says what happened, `level` how much it matters, and
`text` puts it into words. A `Journal` keeps the entries that matter enough, newest first.
-/

set_option autoImplicit false

namespace Chip8

/-- How much an entry matters. -/
inductive Level where
  | error | warn | info | debug | trace
  deriving DecidableEq, Repr

namespace Level

/-- `error` matters most. -/
def rank : Level → Nat
  | error => 0
  | warn => 1
  | info => 2
  | debug => 3
  | trace => 4

def name : Level → String
  | error => "ERROR"
  | warn => "WARN"
  | info => "INFO"
  | debug => "DEBUG"
  | trace => "TRACE"

end Level

/-- Something that is worth logging. -/
inductive Entry where
  | loaded (length : Nat)
  | fetched (instruction : Listing)
  | unknownOpcode (opcode : Opcode) (pc : UInt16)
  | halting (fault : StackFault)
  | keyIgnored (key : UInt8)
  /-- all keys came up since no event had arrived for so many milliseconds -/
  | keysReleased (window : Nat)
  | updateDropped (update : Update)
  | running (clockHz timerHz : Nat)
  | stopping
  | activityStopped (name : String)
  | activityFailed (name : String) (fault : StackFault)
  | command (command : Command)
  | unboundKey (key : Key)
  | failed (error : Error)
  /-- the machine was still running at the end and met a fault -/
  | droppedRunning (fault : StackFault)
  deriving DecidableEq

namespace Entry

def level : Entry → Level
  | unknownOpcode .. | halting _ | failed _ => .error
  | keyIgnored _ | droppedRunning _ => .warn
  | loaded _ | running .. | stopping => .info
  | keysReleased _ | activityStopped _ | activityFailed .. | command _ | unboundKey _ => .debug
  | fetched _ | updateDropped _ => .trace

def text : Entry → String
  | loaded length => s!"loaded {length} byte program at 0x200"
  | fetched l => s!"{Hex.upper 4 l.pc.toNat}: {Hex.upper 4 l.opcode.toNat} {l.mnemonic}"
  | unknownOpcode opcode pc =>
    s!"unknown opcode 0x{Hex.upper 4 opcode.toNat} at 0x{Hex.upper 4 pc.toNat}, skipping"
  | halting fault => s!"halting at 0x{Hex.upper 4 fault.pc.toNat}: {fault.message}"
  | keyIgnored key => s!"ignoring event for key 0x{Hex.upper 2 key.toNat}, keypad has 16 keys"
  | keysReleased window => s!"no key events for {Duration.text window}, released all keys"
  | updateDropped update => s!"frontend busy, dropped {update.name}"
  | running clockHz timerHz => s!"running at {clockHz}Hz, timers at {timerHz}Hz"
  | stopping => "stopping"
  | activityStopped name => s!"{name} activity stopped"
  | activityFailed name fault => s!"{name} activity failed: {fault.message}"
  | command c => s!"command {c.name}"
  | unboundKey key => s!"no command bound to {key.name}"
  | failed error => error.message
  | droppedRunning fault => s!"machine dropped mid-run: {fault.message}"

/-- A log line without time and origin. -/
def line (e : Entry) : String := s!"{e.level.name} {e.text}"

/-- What a load leaves in the journal. -/
def ofLoad : Except Error Nat → List Entry
  | .ok length => [loaded length]
  | .error _ => []

/-- What one step leaves in the journal: the instruction, and why it did nothing if it is unknown
or failed. -/
def ofStep (instruction : Listing) (result : Except StackFault Executed) : List Entry :=
  fetched instruction ::
    match result with
    | .error fault => [halting fault]
    | .ok _ =>
      match instruction.instruction with
      | .unknown opcode => [unknownOpcode opcode instruction.pc]
      | _ => []

/-- What a key event leaves in the journal. -/
def ofKeyEvent (e : KeyEvent) : List Entry :=
  if e.inRange then [] else [keyIgnored e.key]

end Entry

/-- The entries that matter at least as much as `threshold`; `none` keeps nothing. -/
structure Journal where
  threshold : Option Level
  /-- newest first -/
  entries : List Entry
  deriving DecidableEq

namespace Journal

def ofThreshold (threshold : Option Level) : Journal := ⟨threshold, []⟩

def keeps (j : Journal) (e : Entry) : Bool :=
  match j.threshold with
  | none => false
  | some threshold => e.level.rank ≤ threshold.rank

def add (j : Journal) (e : Entry) : Journal :=
  if j.keeps e then { j with entries := e :: j.entries } else j

def addAll (j : Journal) (entries : List Entry) : Journal := entries.foldl add j

/-- The lines of the log, oldest first. -/
def lines (j : Journal) : List String := j.entries.reverse.map Entry.line

end Journal

end Chip8
