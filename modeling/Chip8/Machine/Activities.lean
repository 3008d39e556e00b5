import Chip8.Update
import Chip8.Keypad
import Chip8.Error

/-!
# The three activities of a running machine

While it runs, a machine is driven by three activities of their own rhythm: the cpu executes
instructions, the timers count down, and the keys activity applies queued key events. Each
repeats: look at the halt flag, and either finish or do one tick.

A tick is not one action. What an activity does to the machine is one action, since the machine
is locked for it, but taking events from the queue before it and sending updates after it are
actions of their own, and anything may happen between two actions. A phase says which action an
activity takes next.
-/

set_option autoImplicit false

namespace Chip8

/-- An activity by name. -/
inductive Actor where
  | cpu | timers | keys
  deriving DecidableEq, Repr

/-- Where the cpu stands. -/
inductive CpuPhase where
  /-- about to look at the halt flag -/
  | resting
  /-- about to execute an instruction -/
  | due
  /-- about to send updates, and to give up afterwards if the instruction failed -/
  | sending (pending : List Update) (fault : Option StackFault)
  | finished (fault : Option StackFault)
  deriving DecidableEq

/-- Where the timers stand. -/
inductive TimersPhase where
  | resting
  /-- about to count down -/
  | due
  | finished
  deriving DecidableEq

/-- Where the keys activity stands. -/
inductive KeysPhase where
  | resting
  /-- about to take the queued events -/
  | due
  /-- about to apply the events it took -/
  | holding (events : List KeyEvent)
  /-- about to tell that a key changed -/
  | sending
  | finished
  deriving DecidableEq

/-- The activities of one run. -/
structure Activities where
  /-- raised to end the run: by a call, or by the cpu when it gives up -/
  halt : Bool
  cpu : CpuPhase
  timers : TimersPhase
  keys : KeysPhase
  deriving DecidableEq

namespace Activities

/-- A run that has just begun. -/
def started : Activities := ⟨false, .resting, .resting, .resting⟩

/-- Whether an activity is between two ticks, or done for good. -/
def atRest (a : Activities) : Actor → Bool
  | .cpu => match a.cpu with
    | .resting | .finished _ => true
    | _ => false
  | .timers => match a.timers with
    | .resting | .finished => true
    | _ => false
  | .keys => match a.keys with
    | .resting | .finished => true
    | _ => false

/-- Whether every activity is done for good. -/
def allFinished (a : Activities) : Bool :=
  match a.cpu, a.timers, a.keys with
  | .finished _, .finished, .finished => true
  | _, _, _ => false

/-- The fault that ended the run, if one did. Only the cpu can fail. -/
def fault (a : Activities) : Option StackFault :=
  match a.cpu with
  | .finished fault => fault
  | _ => none

end Activities

end Chip8
