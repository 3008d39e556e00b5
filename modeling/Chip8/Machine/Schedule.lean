import Chip8.Machine.Acting

/-!
# One way to run

The activities may interleave in any way. This module fixes one of them, round after round: the
keys activity completes a tick, then the cpu, and in every eighth round the timers. It is what a
program is run with when nobody else decides, and what waiting for a run to end amounts to.
-/

set_option autoImplicit false

namespace Chip8.Machine

/-- Whether an activity is between two ticks, done, or not there at all. -/
def atRest (m : Machine) (actor : Actor) : Bool :=
  match m.activities with
  | none => true
  | some a => a.atRest actor

/-- Lets an activity act until it rests, but at most `limit` times. No tick takes more than six
actions. -/
def tick (now : Nat) (random : UInt8) (actor : Actor) : Nat → Machine → Machine
  | 0, m => m
  | limit + 1, m =>
    let m := m.act now random actor
    if m.atRest actor then m else tick now random actor limit m

/-- The random byte of a round. Every byte comes up in any 256 rounds in a row. -/
def roundByte (round : Nat) : UInt8 := UInt8.ofNat (round * 97 + 13)

/-- One round of all activities. -/
def round (now number : Nat) (m : Machine) : Machine :=
  let m := tick now (roundByte number) .keys 6 m
  let m := tick now (roundByte number) .cpu 6 m
  if number % 8 = 7 then tick now (roundByte number) .timers 6 m else m

/-- Rounds until `done`, but at most `limit` of them. Returns the number of the next round. -/
def runUntil (now : Nat) (done : Machine → Bool) : Nat → Nat → Machine → Nat × Machine
  | 0, number, m => (number, m)
  | limit + 1, number, m =>
    if done m then (number, m) else runUntil now done limit (number + 1) (m.round now number)

/-- So many rounds. -/
def rounds (now : Nat) : Nat → Nat → Machine → Machine
  | 0, _, m => m
  | count + 1, number, m => rounds now count (number + 1) (m.round now number)

/-- Whether a run has nothing left to do until a key event comes. -/
def isIdle (m : Machine) : Bool := m.isRunning && m.queue.isEmpty && m.state.isIdle

/-- Lets every activity, once the halt flag is raised, end the tick it is in and finish. -/
def windDown (now : Nat) (m : Machine) : Machine :=
  [Actor.keys, .cpu, .timers].foldl
    (fun m actor => (List.replicate 6 actor).foldl (act now 0) m) m

end Chip8.Machine
