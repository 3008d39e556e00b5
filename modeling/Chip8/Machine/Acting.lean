import Chip8.Machine.Basic

/-!
# What the activities do

`Machine.act` is the next action of one activity. It depends on the moment it happens at, for
keys that expire, and on a random byte, for `CXNN`. An activity that is done, or one of a machine
that is not running, does nothing.
-/

set_option autoImplicit false

namespace Chip8.Machine

/-- The cpu's next action. Its fault is sent before the halt flag is raised. -/
def actCpu (random : UInt8) (m : Machine) (a : Activities) : Machine :=
  match a.cpu with
  | .resting =>
    if a.halt then
      { m with activities := some { a with cpu := .finished none } }.log [.activityStopped "cpu"]
    else { m with activities := some { a with cpu := .due } }
  | .due =>
    let (m, result) := m.execute random
    match result with
    | .ok _ =>
      { m with activities := some { a with cpu := .sending (Update.ofStep result) none } }
    | .error fault =>
      let cpu := .sending [.fault fault.message] (some fault)
      { m with activities := some { a with cpu := cpu } }
  | .sending (u :: rest) fault =>
    { m.notify u with activities := some { a with cpu := .sending rest fault } }
  | .sending [] none => { m with activities := some { a with cpu := .resting } }
  | .sending [] (some fault) =>
    { m with activities := some { a with halt := true, cpu := .finished (some fault) } }.log
      [.activityFailed "cpu" fault]
  | .finished _ => m

/-- The timers' next action. -/
def actTimers (m : Machine) (a : Activities) : Machine :=
  match a.timers with
  | .resting =>
    if a.halt then
      { m with activities := some { a with timers := .finished } }.log [.activityStopped "timers"]
    else { m with activities := some { a with timers := .due } }
  | .due => { m.tickTimers with activities := some { a with timers := .resting } }
  | .finished => m

/-- The keys activity's next action. -/
def actKeys (now : Nat) (m : Machine) (a : Activities) : Machine :=
  match a.keys with
  | .resting =>
    if a.halt then
      { m with activities := some { a with keys := .finished } }.log [.activityStopped "keypad"]
    else { m with activities := some { a with keys := .due } }
  | .due =>
    let (events, m) := m.takeKeys
    { m with activities := some { a with keys := .holding events } }
  | .holding events =>
    let (m, changed) := m.refreshKeys now events
    { m with activities := some { a with keys := if changed then .sending else .resting } }
  | .sending => { m.notify .keys with activities := some { a with keys := .resting } }
  | .finished => m

/-- The next action of one activity. -/
def act (now : Nat) (random : UInt8) (m : Machine) (actor : Actor) : Machine :=
  match m.activities with
  | none => m
  | some a =>
    match actor with
    | .cpu => m.actCpu random a
    | .timers => m.actTimers a
    | .keys => m.actKeys now a

end Chip8.Machine
