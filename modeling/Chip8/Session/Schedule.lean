import Chip8.Session.Basic
import Chip8.Machine.Schedule

/-!
# One way to hold a session

Session and activities may interleave in any way. This module fixes one of them, to hold a session
when nobody else decides: in every round the activities of a running machine have rounds of their
own, and then the session reads the updates that wait and acts a dozen times more. At first the
activities have one round at a time. A run that takes long is not held up by its being shown: they
have many then.
-/

set_option autoImplicit false

namespace Chip8.World

/-- How many actions the session takes in a round, beyond one for every update that waits. -/
def sessionActions : Nat := 12

/-- How many rounds the activities have in one round of the session, by the number of the first. -/
def stretch (number : Nat) : Nat := if number < 4096 then 1 else 256

def hasEnded (w : World) : Bool := w.session.result?.isSome

/-- One round. -/
def round (now number : Nat) (w : World) : World :=
  let w := { w with machine := w.machine.rounds now (stretch number) number }
  (List.range (w.machine.frontend.waiting.length + sessionActions)).foldl
    (fun w _ => w.act now (Machine.roundByte number) .session) w

/-- Rounds until `done` or the end of the session, but at most `limit` of them. Returns the number
of the activities' next round. -/
def runUntil (now : Nat) (done : World → Bool) : Nat → Nat → World → Nat × World
  | 0, number, w => (number, w)
  | limit + 1, number, w =>
    if w.hasEnded || done w then (number, w)
    else runUntil now done limit (number + stretch number) (w.round now number)

/-- Rounds until the end of the session, but at most `limit` of them. -/
def runToEnd (now limit : Nat) (w : World) : World :=
  (runUntil now (fun _ => false) limit 0 w).2

end Chip8.World
