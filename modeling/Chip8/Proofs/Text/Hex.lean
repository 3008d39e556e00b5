import Mathlib.Algebra.Group.Nat.Defs
import Mathlib.Data.List.Basic
import Chip8.Text.Hex

/-!
# Reading hexadecimal numbers

A number is written with as many digits as it needs, and filled up with zeros where it is shorter
than its column. Either way it reads back (`ofDigits?_padded`), since zeros in front are worth
nothing. `Numeral` says which digits stand for a number in a column of some width: upper-case ones
that are worth the number, at least as many as the column is wide, and no more of them than needed.
A number that is small enough has just the width of its column (`length_padded`).
-/

set_option autoImplicit false

namespace Chip8.Hex

/-- What digits are worth, the most significant first; `none` if some character is no digit. -/
def ofDigits? (text : List Char) : Option Nat :=
  text.foldlM (fun n c => (value? c).map (16 * n + ·)) 0

/-- The digits that are written. -/
def upperDigits : List Char := "0123456789ABCDEF".toList

/-- A number in a column of some width. -/
structure Numeral (width n : Nat) (text : List Char) : Prop where
  upper : ∀ c ∈ text, c ∈ upperDigits
  worth : ofDigits? text = some n
  filled : width ≤ text.length
  /-- a zero in front is there to fill the column -/
  tight : width < text.length → text.head? ≠ some '0'

theorem digit_mod (n : Nat) : digit (n % 16) = digit n := by
  simp only [digit, Nat.mod_mod]

theorem value?_digit_mod (n : Nat) : value? (digit n) = some (n % 16) := by
  rw [← digit_mod]
  exact value?_digit ⟨n % 16, Nat.mod_lt _ (by decide)⟩

theorem digit_mem_upperDigits (n : Nat) : digit n ∈ upperDigits := by
  have all : ∀ d : Fin 16, digit d.val ∈ upperDigits := by decide
  rw [← digit_mod]
  exact all ⟨n % 16, Nat.mod_lt _ (by decide)⟩

theorem digit_eq_zero_iff {n : Nat} (h : n < 16) : digit n = '0' ↔ n = 0 := by
  have all : ∀ d : Fin 16, digit d.val = '0' ↔ d.val = 0 := by decide
  exact all ⟨n, h⟩

theorem ofDigits?_concat_digit {text : List Char} {high : Nat} (worth : ofDigits? text = some high)
    (n : Nat) : ofDigits? (text ++ [digit n]) = some (16 * high + n % 16) := by
  rw [ofDigits?] at worth
  simp [ofDigits?, List.foldlM_append, worth, value?_digit_mod]

theorem ofDigits?_digits (n : Nat) : ofDigits? (digits n) = some n := by
  fun_induction digits n with
  | case1 n small =>
    have alone : ofDigits? ([] ++ [digit n]) = some (16 * 0 + n % 16) := ofDigits?_concat_digit rfl n
    rwa [Nat.mul_zero, Nat.zero_add, Nat.mod_eq_of_lt small, List.nil_append] at alone
  | case2 n _ ih =>
    rw [ofDigits?_concat_digit ih, Nat.div_add_mod]

theorem mem_digits_upper (n : Nat) : ∀ c ∈ digits n, c ∈ upperDigits := by
  fun_induction digits n with
  | case1 n _ => exact List.forall_mem_singleton.mpr (digit_mem_upperDigits n)
  | case2 n _ ih =>
    exact List.forall_mem_append.mpr ⟨ih, List.forall_mem_singleton.mpr (digit_mem_upperDigits n)⟩

theorem digits_ne_nil (n : Nat) : digits n ≠ [] := by
  rw [digits]
  split <;> simp

/-- No digit is written that is not needed. -/
theorem head?_digits {n : Nat} (positive : 0 < n) : (digits n).head? ≠ some '0' := by
  fun_induction digits n with
  | case1 n small =>
    intro zero
    have := (digit_eq_zero_iff small).mp (Option.some.inj zero)
    omega
  | case2 n large ih =>
    rw [List.head?_append_of_ne_nil _ (digits_ne_nil _)]
    exact ih (by omega)

theorem ofDigits?_replicate_append (k : Nat) (text : List Char) :
    ofDigits? (List.replicate k '0' ++ text) = ofDigits? text := by
  induction k with
  | zero => rfl
  | succ k ih =>
    rw [List.replicate_succ, List.cons_append, ← ih]
    rfl

theorem ofDigits?_padded (width n : Nat) : ofDigits? (padded width n) = some n := by
  rw [padded, List.leftpad, ofDigits?_replicate_append, ofDigits?_digits]

/-- **A number is written as it should be**, in any column. -/
theorem numeral_padded {width : Nat} (wide : 0 < width) (n : Nat) :
    Numeral width n (padded width n) where
  upper := by
    rw [padded, List.leftpad]
    refine List.forall_mem_append.mpr ⟨fun c zero => ?_, mem_digits_upper n⟩
    rw [List.eq_of_mem_replicate zero]
    decide
  worth := ofDigits?_padded width n
  filled := by
    rw [padded, List.length_leftpad]
    exact Nat.le_max_left _ _
  tight long := by
    rw [padded, List.length_leftpad] at long
    have unfilled : padded width n = digits n := by
      rw [padded, List.leftpad, show width - (digits n).length = 0 by omega]
      rfl
    have positive : 0 < n := by
      by_contra zero
      have short : (digits n).length = 1 := by
        rw [digits, if_pos (by omega)]
        rfl
      omega
    rw [unfilled]
    exact head?_digits positive

/-! ## Width -/

theorem length_digits_le {width n : Nat} (h : n < 16 ^ (width + 1)) :
    (digits n).length ≤ width + 1 := by
  induction width generalizing n with
  | zero =>
    rw [digits, if_pos (by omega)]
    exact Nat.le_refl 1
  | succ width ih =>
    rw [digits]
    split
    · exact Nat.le_add_left 1 _
    · have shorter : n / 16 < 16 ^ (width + 1) := by
        rw [Nat.pow_succ] at h
        omega
      rw [List.length_append]
      exact Nat.add_le_add_right (ih shorter) 1

/-- A number that fits is written in the width that it is given. -/
theorem length_padded {width n : Nat} (h : n < 16 ^ (width + 1)) :
    (padded (width + 1) n).length = width + 1 := by
  rw [padded, List.length_leftpad]
  exact Nat.max_eq_left (length_digits_le h)

theorem length_padded_byte (b : UInt8) : (padded 2 b.toNat).length = 2 :=
  length_padded (by have := b.toNat_lt; omega)

end Chip8.Hex
