import Chip8.Text.Hex

/-!
# What can go wrong

A `StackFault` is the only way an instruction can fail: a call with the call stack full, or a
return with it empty. It names the address of the instruction. `Error` adds what can go wrong
around the interpreter: reading a program, storing it, and keeping the running activities alive.
Unknown opcodes are no error: they are skipped.
-/

set_option autoImplicit false

namespace Chip8

/-- An instruction that cannot be executed, by its address. -/
inductive StackFault where
  /-- a call with all sixteen slots in use -/
  | overflow (pc : UInt16)
  /-- a return with no call pending -/
  | underflow (pc : UInt16)
  deriving DecidableEq, Repr

namespace StackFault

/-- The address of the instruction that failed. -/
def pc : StackFault → UInt16
  | overflow pc => pc
  | underflow pc => pc

def message : StackFault → String
  | overflow pc =>
    s!"stack overflow: call at 0x{Hex.upper 4 pc.toNat} with all 16 stack slots in use"
  | underflow pc =>
    s!"stack underflow: return at 0x{Hex.upper 4 pc.toNat} with an empty call stack"

end StackFault

/-- Everything that can stop the machine or keep it from starting. -/
inductive Error where
  /-- reading a program, or talking to the terminal, failed -/
  | io (reason : String)
  /-- more bytes than there is room for -/
  | romTooLarge (size room : Nat)
  /-- a stretch of memory was named that does not lie in memory -/
  | outOfRange (address length : Nat)
  | stack (fault : StackFault)
  /-- an activity broke off while it held the machine -/
  | poisoned (reason : String)
  /-- an activity could not be started -/
  | activitySpawn (name reason : String)
  | activity (reason : String)
  deriving DecidableEq, Repr

namespace Error

/-- The one place where errors are put into words. -/
def message : Error → String
  | io reason => s!"I/O error: {reason}"
  | romTooLarge size room => s!"ROM is too large ({size} bytes), max size is {room} bytes"
  | outOfRange address length => s!"no {length} bytes of memory at {address}"
  | stack fault => fault.message
  | poisoned reason => s!"machine state lock poisoned: {reason}"
  | activitySpawn name reason => s!"could not start the {name} activity: {reason}"
  | activity reason => s!"scheduler activity failed: {reason}"

/-- What a reader of a poisoned machine is told when nothing more is known. -/
def abandoned : Error := .poisoned "poisoned lock: another task failed inside"

end Error

end Chip8
