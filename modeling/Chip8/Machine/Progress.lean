import Chip8.Machine.Acting

/-!
# Calls in progress

A call to a machine is a sequence of actions, between which the activities may act. `Progress` is
what is left of a call, by its next action, and `Machine.advance` takes that action. Only one
action can be held up: a call that ends a run waits until every activity is done.
-/

set_option autoImplicit false

namespace Chip8

/-- A call, by the action it takes next. -/
inductive Progress where
  /-- a step, about to take the queued key events -/
  | step
  /-- a step, about to apply the events it took and to execute an instruction -/
  | stepHolding (events : List KeyEvent)
  /-- about to send updates and then to return a result -/
  | sending (pending : List Update) (result : Except StackFault Unit)
  /-- a run, about to look whether one is going on -/
  | run
  /-- about to end a run, and then to begin another if `again` -/
  | halting (again : Bool)
  /-- waiting for the activities to finish -/
  | joining (again : Bool)
  /-- about to begin a run -/
  | spawning
  | returned (result : Except StackFault Unit)

namespace Progress

/-- The call that ends a run, if there is one. -/
def stop : Progress := .halting false

end Progress

namespace Machine

/-- The next action of a call. -/
def advance (now : Nat) (random : UInt8) (m : Machine) : Progress → Machine × Progress
  | .step =>
    let (events, m) := m.takeKeys
    (m, .stepHolding events)
  | .stepHolding events =>
    let (m, changed) := m.refreshKeys now events
    let (m, result) := m.execute random
    (m, .sending ((if changed then [.keys] else []) ++ Update.ofStep result)
      (result.map fun _ => ()))
  | .sending (u :: rest) result => (m.notify u, .sending rest result)
  | .sending [] result => (m, .returned result)
  | .run =>
    match m.activities with
    | none => (m, .spawning)
    | some a => if a.halt then (m, .halting true) else (m, .returned (.ok ()))
  | .halting again =>
    match m.activities with
    | none => (m, if again then .spawning else .returned (.ok ()))
    | some _ => ((m.log [.stopping]).raiseHalt, .joining again)
  | .joining again =>
    match m.activities with
    | none => (m, .returned (.ok ()))
    | some a =>
      if a.allFinished then
        match m.reap with
        | (m, .error fault) => (m, .returned (.error fault))
        | (m, .ok ()) => (m, if again then .spawning else .returned (.ok ()))
      else (m, .joining again)
  | .spawning => (m.spawn, .returned (.ok ()))
  | .returned result => (m, .returned result)

end Machine

end Chip8
