/-!
# Durations as text

A whole number of milliseconds, written in the largest unit that it fills: `0ns`, `250ms`, `1.5s`.
Seconds have a fraction only where one is needed, without trailing zeros.
-/

set_option autoImplicit false

namespace Chip8.Duration

/-- The digits after the point for `ms` thousandths, without trailing zeros. -/
def fraction (ms : Nat) : String :=
  if ms % 10 ≠ 0 then s!"{ms / 100 % 10}{ms / 10 % 10}{ms % 10}"
  else if ms / 10 % 10 ≠ 0 then s!"{ms / 100 % 10}{ms / 10 % 10}"
  else s!"{ms / 100 % 10}"

def text (ms : Nat) : String :=
  if ms = 0 then "0ns"
  else if ms < 1000 then s!"{ms}ms"
  else if ms % 1000 = 0 then s!"{ms / 1000}s"
  else s!"{ms / 1000}.{fraction (ms % 1000)}s"

end Chip8.Duration
