/-!
# Configuration

The rates of the three activities and the two points where machines of this kind differ: whether
keys are released on their own, and how `FX55` and `FX65` leave the index register.
-/

set_option autoImplicit false

namespace Chip8

structure Config where
  /-- instructions per second -/
  clockHz : Nat := 700
  /-- timer ticks per second -/
  timerHz : Nat := 60
  /-- how often a second queued key events are applied -/
  keypadHz : Nat := 500
  /-- release every key when no key event has come for this many milliseconds -/
  keyRelease : Option Nat := none
  /-- `FX55` and `FX65` leave the index register behind the last register copied -/
  advancesIndex : Bool := false
  deriving DecidableEq, Repr

namespace Config

/-- The nanoseconds between two ticks at a rate, rounded down; a rate of 0 counts as 1. -/
def period (hz : Nat) : Nat := 1000000000 / max hz 1

def clockPeriod (c : Config) : Nat := period c.clockHz

def timerPeriod (c : Config) : Nat := period c.timerHz

def keypadPeriod (c : Config) : Nat := period c.keypadHz

end Config

end Chip8
