import Chip8.Proofs.Interpreter.Inner

/-!
# Marks are for show

A register is marked when it is written, and a snapshot takes the marks away. No instruction looks at
them: a state and the same state after a snapshot make the same step, and differ in nothing but marks
afterwards (`step_seen_congr`).
-/

set_option autoImplicit false

namespace Chip8.State

variable {s t : State}

theorem seen_advanceIndex (h : s.seen = t.seen) (advances : Bool) (x : Register) :
    (s.advanceIndex advances x).seen = (t.advanceIndex advances x).seen := by
  have hindex : s.seen.index = t.seen.index := congrArg State.index h
  cases advances with
  | false => exact h
  | true =>
    have moved (i : UInt16) : { s with index := i }.seen = { t with index := i }.seen :=
      congrArg (fun r : State => { r with index := i }) h
    show { s with index := s.seen.index + _ }.seen = { t with index := t.seen.index + _ }.seen
    rw [hindex]
    exact moved _

theorem execute_seen (advances : Bool) (random : UInt8) (pc : UInt16) (s : State)
    (ins : Instruction) :
    (s.seen.execute advances random pc ins).map seen
      = (s.execute advances random pc ins).map seen := by
  have skip (c : Bool) : (s.seen.skipIf c).seen = (s.skipIf c).seen := by cases c <;> rfl
  have hstack : s.seen.stack = s.stack := rfl
  have hpc : s.seen.pc = s.pc := rfl
  have hkeypad : s.seen.keypad = s.keypad := rfl
  cases ins with
  | ret =>
    simp only [execute, hstack]
    cases s.stack.pop? <;> rfl
  | call target =>
    simp only [execute, hstack, hpc]
    cases s.stack.push? s.pc <;> rfl
  | waitForKey x =>
    simp only [execute, hkeypad]
    cases s.keypad.firstDown <;> rfl
  | skipEqualConstant | skipNotEqualConstant | skipEqualRegister | skipNotEqualRegister
  | skipIfPressed | skipIfNotPressed => exact congrArg Except.ok (skip _)
  | storeRegisters x =>
    refine congrArg Except.ok (seen_advanceIndex ?_ advances x)
    rfl
  | loadRegisters x =>
    refine congrArg Except.ok (seen_advanceIndex ?_ advances x)
    simp only [seen, Registers.unmarked_writeThrough]
  | _ => rfl

theorem seen_overlooks : Overlooks seen :=
  ⟨fun _ => rfl, fun _ => rfl, fun _ => rfl, fun _ => rfl, fun _ => rfl, fun _ => rfl,
    fun _ _ => rfl, fun _ => rfl⟩

/-- **States that differ in marks only** make the same step, and differ in marks only. -/
theorem step_seen_congr (h : s.seen = t.seen) (advances : Bool) (random : UInt8) :
    (s.step advances random).1.seen = (t.step advances random).1.seen
      ∧ (s.step advances random).2 = (t.step advances random).2 :=
  seen_overlooks.step_congr (execute_seen advances random) h

end Chip8.State
