/-!
# Hexadecimal text

Numbers written in base sixteen with upper-case digits and filled with zeros up to a least
width, which is how the machine shows addresses, opcodes and bytes. `value?` reads one digit
back, in either case, and gives the number that `digit` wrote (`value?_digit`).
-/

set_option autoImplicit false

namespace Chip8.Hex

/-- The upper-case digit that stands for `n % 16`. -/
def digit (n : Nat) : Char :=
  let d := n % 16
  if d < 10 then Char.ofNat (48 + d) else Char.ofNat (55 + d)

/-- What one digit stands for; `none` for a character that is no hexadecimal digit. -/
def value? (c : Char) : Option Nat :=
  if '0' ≤ c ∧ c ≤ '9' then some (c.toNat - 48)
  else if 'A' ≤ c ∧ c ≤ 'F' then some (c.toNat - 55)
  else if 'a' ≤ c ∧ c ≤ 'f' then some (c.toNat - 87)
  else none

/-- A digit reads back as the number it stands for. -/
theorem value?_digit (d : Fin 16) : value? (digit d.val) = some d.val := by
  revert d
  decide

/-- The digits of `n`, most significant first, without leading zeros. -/
def digits (n : Nat) : List Char :=
  if n < 16 then [digit n] else digits (n / 16) ++ [digit n]
termination_by n

/-- The digits of `n` with zeros in front up to `width`; a longer number keeps all its digits. -/
def padded (width n : Nat) : List Char :=
  (digits n).leftpad width '0'

/-- `padded` as text: `upper 4 0x2A` is `002A`. -/
def upper (width n : Nat) : String :=
  String.ofList (padded width n)

end Chip8.Hex
