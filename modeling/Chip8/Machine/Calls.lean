import Chip8.Machine.Schedule

/-!
# Calls

What the owner of a machine can ask it for. Each call is defined as if nothing else happened
between its actions, which is the case while the machine is stopped. `stop` lets the activities
end the ticks they are in.
-/

set_option autoImplicit false

namespace Chip8.Machine

/-- Loads a program into a fresh state. A failed load changes and announces nothing. -/
def load (source : Source) (m : Machine) : Machine × Except Error Nat :=
  let (m, result) := m.replaceProgram source
  (m.notifyAll (Update.ofLoad result), result)

/-- Executes one instruction, whatever else the machine is doing. Queued key events come first. -/
def stepOnce (now : Nat) (random : UInt8) (m : Machine) : Machine × Except StackFault Listing :=
  let (events, m) := m.takeKeys
  let (m, changed) := m.refreshKeys now events
  let (m, result) := m.execute random
  let m := m.notifyAll ((if changed then [.keys] else []) ++ Update.ofStep result)
  (m, result.map Executed.listing)

/-- Ends the run, if there is one. When this returns no activity is left. Returns the fault that
ended the run before, if one did. -/
def stop (now : Nat) (m : Machine) : Machine × Except StackFault Unit :=
  match m.activities with
  | none => (m, .ok ())
  | some _ => ((m.log [.stopping]).raiseHalt.windDown now).reap

/-- Begins a run, unless one is going on. A run that halted on a fault is stopped first, and its
fault returned instead of beginning another. -/
def run (now : Nat) (m : Machine) : Machine × Except StackFault Unit :=
  match m.activities with
  | none => (m.spawn, .ok ())
  | some a =>
    if a.halt then
      match m.stop now with
      | (m, .error fault) => (m, .error fault)
      | (m, .ok ()) => (m.spawn, .ok ())
    else (m, .ok ())

end Chip8.Machine
