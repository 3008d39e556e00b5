import Chip8.Proofs.Interpreter.Run

/-!
# Which step faults

`State.stuck?` says what a step would fail with, from the state alone: a call with the call stack
full, or a return with it empty. It mentions neither the random byte nor the treatment of the
index register, and `step_error_iff` says that it is exact.

It reads three components only: memory, program counter and call stack. A step that fails writes
none of them, and neither does anything outside the cpu, so a fault stays: the state meets it
again at every later attempt (`stuck?_step`, `stuck?_of_same`). What this file does not say is
what else a failing step leaves alone.
-/

set_option autoImplicit false

namespace Chip8

namespace State

/-- The fault that the next step meets, if it meets one. -/
def stuck? (s : State) : Option StackFault :=
  match Instruction.decode s.fetch with
  | .ret => if s.stack.depth = 0 then some (.underflow s.pc) else none
  | .call _ => if s.stack.depth = 16 then some (.overflow s.pc) else none
  | _ => none

/-- The next step's fault is settled by memory, program counter and call stack. -/
theorem stuck?_of_same {s t : State} (hmem : t.memory = s.memory) (hpc : t.pc = s.pc)
    (hstack : t.stack = s.stack) : t.stuck? = s.stuck? := by
  unfold stuck? fetch
  rw [hmem, hpc, hstack]

/-- A fault names the address that the program counter stands on. -/
theorem pc_of_stuck? {s : State} {f : StackFault} (h : s.stuck? = some f) : f.pc = s.pc := by
  unfold stuck? at h
  split at h
  · split at h
    · cases h; rfl
    · cases h
  · split at h
    · cases h; rfl
    · cases h
  · cases h

/-- **A step fails exactly where `stuck?` says so**, whatever byte is drawn. -/
theorem step_error_iff {s : State} {f : StackFault} (advances : Bool) (random : UInt8) :
    (s.step advances random).2 = .error f ↔ s.stuck? = some f := by
  have hpop := s.stack.pop?_eq_none_iff
  have hpush := s.stack.push?_eq_none_iff (after s.pc)
  unfold step stuck?
  cases hd : Instruction.decode s.fetch with
  | ret =>
    cases hp : s.stack.pop? with
    | none =>
      have h0 : s.stack.depth = 0 := hpop.mp hp
      simp [execute, noted, hp, h0]
    | some popped =>
      have h0 : s.stack.depth ≠ 0 := fun h => by rw [hpop.mpr h] at hp; cases hp
      simp [execute, noted, hp, h0]
  | call target =>
    cases hp : s.stack.push? (after s.pc) with
    | none =>
      have h16 : s.stack.depth = 16 := hpush.mp hp
      simp [execute, noted, hp, h16]
    | some pushed =>
      have h16 : s.stack.depth ≠ 16 := fun h => by rw [hpush.mpr h] at hp; cases hp
      simp [execute, noted, hp, h16]
  | waitForKey x =>
    -- the one other instruction that has two outcomes, both of them successes
    cases hk : s.keypad.firstDown <;> simp [execute, noted, hk]
  | _ => simp [execute]

/-- A step that fails only notes the instruction. -/
theorem step_of_stuck? {s : State} {f : StackFault} (h : s.stuck? = some f) (advances : Bool)
    (random : UInt8) : s.step advances random = (s.noted, .error f) := by
  have hres := (step_error_iff advances random).mpr h
  unfold step at hres ⊢
  split at hres
  · exact Prod.ext rfl hres
  · cases hres

/-- **A fault is sticky**: the step that met it leaves a state that meets it again. -/
theorem stuck?_step {s : State} {f : StackFault} (h : s.stuck? = some f) (advances : Bool)
    (random : UInt8) : (s.step advances random).1.stuck? = some f := by
  rw [step_of_stuck? h]
  exact h

end State

end Chip8
