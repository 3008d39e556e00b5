import Chip8.Config
import Chip8.Proofs.Interpreter.Fault
import Chip8.Proofs.Interpreter.Bounds

/-!
# What every reachable state is like

The program counter and the return addresses are full words by their types. That they stay below
4096 is a property of runs, and neither half of it stands alone: `00EE` moves a slot into the
program counter, and `2NNN` moves the program counter into a slot. So the invariant of execution,
`InBounds`, has both. It says *every* slot and not only the pending ones, because a return leaves
its address behind and nothing but the depth says which slots are old.

Between two operations more holds: nothing is left to report (`Sound`). An instruction raises the
two flags and the end of its step lowers them; an instruction that fails does not get as far as
raising one, so nothing is left over from it either.
-/

set_option autoImplicit false

namespace Chip8

/-! ## Addresses -/

/-- An address has twelve bits. -/
theorem Address.toWord_le (a : Address) : a.toWord ≤ 0x0FFF := by
  have hval := a.isLt
  rw [UInt16.le_iff_toNat_le, Address.toNat_toWord]
  show a.val ≤ 4095
  omega

theorem UInt16.mod_4096_le (w : UInt16) : w % 4096 ≤ 0x0FFF := by
  rw [UInt16.le_iff_toNat_le, UInt16.toNat_mod]
  show w.toNat % 4096 ≤ 4095
  omega

namespace CallStack

/-- Every slot, pending or left behind, holds an address. -/
def HoldsAddresses (c : CallStack) : Prop := ∀ k : Fin 16, c.slots[k] ≤ 0x0FFF

theorem HoldsAddresses.empty : CallStack.empty.HoldsAddresses := by
  intro k
  simp [CallStack.empty]

theorem HoldsAddresses.push {c d : CallStack} {addr : UInt16} (hc : c.HoldsAddresses)
    (haddr : addr ≤ 0x0FFF) (h : c.push? addr = some d) : d.HoldsAddresses := by
  unfold push? at h
  split at h
  · cases h
    intro k
    show (c.slots.set c.depth addr)[k.val] ≤ 0x0FFF
    rw [Vector.getElem_set]
    split
    · exact haddr
    · exact hc k
  · cases h

/-- A return takes an address, and leaves every slot as it was. -/
theorem HoldsAddresses.pop {c d : CallStack} {addr : UInt16} (hc : c.HoldsAddresses)
    (h : c.pop? = some (addr, d)) : addr ≤ 0x0FFF ∧ d.HoldsAddresses := by
  obtain ⟨slots, depth, hle⟩ := c
  cases depth with
  | zero => cases h
  | succ n =>
    cases h
    exact ⟨hc ⟨n, hle⟩, hc⟩

end CallStack

namespace State

/-- What execution keeps: addresses in the program counter and in every slot. -/
structure InBounds (s : State) : Prop where
  pc_le : s.pc ≤ 0x0FFF
  slots_le : s.stack.HoldsAddresses

/-- What holds whenever no step is in progress. -/
structure Sound (s : State) : Prop extends InBounds s where
  redraw : s.redraw = false
  dirty : s.registers.dirty = false

/-! ## Execution -/

theorem after_le (pc : UInt16) : after pc ≤ 0x0FFF := UInt16.mod_4096_le _

theorem InBounds.skipIf {s : State} (h : s.InBounds) (condition : Bool) :
    (s.skipIf condition).InBounds := by
  cases condition with
  | false => exact h
  | true => exact ⟨after_le s.pc, h.slots_le⟩

theorem InBounds.advanceIndex {s : State} (h : s.InBounds) (advances : Bool) (x : Register) :
    (s.advanceIndex advances x).InBounds := by
  cases advances with
  | false => exact h
  | true => exact ⟨h.pc_le, h.slots_le⟩

/-- **Every instruction that succeeds keeps addresses addresses.** The instruction's own address
matters for `FX0A` alone, which goes back to it. -/
theorem InBounds.execute {s t : State} {advances : Bool} {random : UInt8} {pc : UInt16}
    {ins : Instruction} (h : s.InBounds) (hpc : pc ≤ 0x0FFF)
    (hex : s.execute advances random pc ins = .ok t) : t.InBounds := by
  cases ins with
  | machineCall | unknown | clearScreen | setRegister | addToRegister | copyRegister | bitOr
  | bitAnd | bitXor | add | subtractForward | subtractBackward | rightShift | leftShift | setIndex
  | random | draw | copyDelayToRegister | copyRegisterToDelay | copyRegisterToSound | addToIndex
  | pointAtGlyph | storeDecimal =>
    cases hex
    exact ⟨h.pc_le, h.slots_le⟩
  | ret =>
    simp only [State.execute] at hex
    split at hex
    · cases hex
    · rename_i addr stack hpop
      cases hex
      exact ⟨(h.slots_le.pop hpop).1, (h.slots_le.pop hpop).2⟩
  -- what is pushed is the program counter, and so an address
  | call target =>
    simp only [State.execute] at hex
    split at hex
    · cases hex
    · rename_i stack hpush
      cases hex
      exact ⟨target.toWord_le, h.slots_le.push h.pc_le hpush⟩
  | jump target =>
    cases hex
    exact ⟨target.toWord_le, h.slots_le⟩
  -- the sum is reduced before it becomes the program counter
  | jumpWithOffset target =>
    cases hex
    exact ⟨UInt16.mod_4096_le _, h.slots_le⟩
  | skipEqualConstant | skipNotEqualConstant | skipEqualRegister | skipNotEqualRegister
  | skipIfPressed | skipIfNotPressed =>
    cases hex
    exact h.skipIf _
  -- without a key the program counter goes back to the instruction
  | waitForKey x =>
    simp only [State.execute] at hex
    split at hex
    · cases hex
      exact ⟨h.pc_le, h.slots_le⟩
    · cases hex
      exact ⟨hpc, h.slots_le⟩
  | storeRegisters x =>
    cases hex
    refine InBounds.advanceIndex ?_ advances x
    exact ⟨h.pc_le, h.slots_le⟩
  | loadRegisters x =>
    cases hex
    refine InBounds.advanceIndex ?_ advances x
    exact ⟨h.pc_le, h.slots_le⟩

/-! ## Operations -/

theorem Sound.initial : State.initial.Sound :=
  ⟨⟨by decide, CallStack.HoldsAddresses.empty⟩, rfl, rfl⟩

theorem Sound.step {s : State} (h : s.Sound) (advances : Bool) (random : UInt8) :
    (s.step advances random).1.Sound := by
  unfold State.step
  have hnoted : { s.noted with pc := after s.pc }.InBounds := ⟨after_le s.pc, h.slots_le⟩
  cases hex : State.execute advances random s.pc { s.noted with pc := after s.pc }
      (Instruction.decode s.fetch) with
  | error fault => exact ⟨⟨h.pc_le, h.slots_le⟩, h.redraw, h.dirty⟩
  | ok done =>
    have hdone := hnoted.execute h.pc_le hex
    exact ⟨⟨hdone.pc_le, hdone.slots_le⟩, rfl, rfl⟩

theorem Sound.load {source : Source} {length : Nat} {s : State}
    (h : State.load source = .ok (length, s)) : s.Sound := by
  unfold State.load at h
  cases hmem : State.initial.memory.loadProgram source with
  | error e =>
    rw [hmem] at h
    cases h
  | ok loaded =>
    rw [hmem] at h
    cases h
    exact ⟨⟨Sound.initial.pc_le, Sound.initial.slots_le⟩, rfl, rfl⟩

end State

namespace Interpreter

open State

/-- **Every operation keeps a state sound.** Timers, keys and snapshots touch none of the
components that the invariant is about. -/
theorem perform_sound (i : Interpreter) (op : Operation) (h : i.state.Sound) :
    (i.perform op).state.Sound := by
  cases op with
  | load source =>
    show (i.load source).1.state.Sound
    unfold load
    split
    · rename_i length s hload
      exact Sound.load hload
    · exact h
  | step random => exact h.step i.advancesIndex random
  | tick | key | expire | clearKeys | snapshot => exact ⟨⟨h.pc_le, h.slots_le⟩, h.redraw, h.dirty⟩

theorem run_sound (advances : Bool) (ops : List Operation) :
    ((Interpreter.new advances).run ops).state.Sound :=
  run_induction (P := fun i => i.state.Sound) perform_sound ops Sound.initial

theorem step_result (i : Interpreter) (random : UInt8) :
    (∃ done, (i.step random).2 = .ok done) ∨ (i.step random).2 = .error (.overflow i.state.pc) ∨
      (i.step random).2 = .error (.underflow i.state.pc) := by
  cases hres : (i.step random).2 with
  | ok done => exact Or.inl ⟨done, rfl⟩
  | error fault =>
    have hpc := pc_of_stuck? ((step_error_iff i.advancesIndex random).mp hres)
    cases fault with
    | overflow pc =>
      cases hpc
      exact Or.inr (Or.inl rfl)
    | underflow pc =>
      cases hpc
      exact Or.inr (Or.inr rfl)

/-- **Whatever was loaded, executed, ticked, pressed and shown, in whatever order:** storage has
its size and pixels are 0 or 1, program counter and slots hold addresses, nothing is left to
report, and the next instruction, whatever byte it may draw, makes no access outside the storage
and fails only for the call stack. -/
theorem reachable_in_bounds (config : Config) (ops : List Operation) :
    let i := (Interpreter.new config.advancesIndex).run ops
    let a := i.state.toArrays
    a.memory.size = 4096 ∧
    (a.pixels.size = 2048 ∧ ∀ k : Fin 2048, a.pixels[k]? = some 0 ∨ a.pixels[k]? = some 1) ∧
    i.state.pc ≤ 0x0FFF ∧
    i.state.stack.depth ≤ 16 ∧
    (a.slots.size = 16 ∧ ∀ k : Fin 16, i.state.stack.slots[k] ≤ 0x0FFF) ∧
    (i.state.redraw = false ∧ i.state.registers.dirty = false) ∧
    ∀ random : UInt8,
      a.step i.advancesIndex random =
        .ok ((i.step random).1.state.toArrays, (i.step random).2) ∧
      ((∃ done, (i.step random).2 = .ok done) ∨
        (i.step random).2 = .error (.overflow i.state.pc) ∨
        (i.step random).2 = .error (.underflow i.state.pc)) := by
  intro i a
  have hsound : i.state.Sound := run_sound config.advancesIndex ops
  refine ⟨Vector.size_toArray _, ⟨?_, fun k => ?_⟩, hsound.pc_le, i.state.stack.depth_le,
    ⟨Vector.size_toArray _, hsound.slots_le⟩, ⟨hsound.redraw, hsound.dirty⟩, fun random => ?_⟩
  · show i.state.frame.toBytes.toArray.size = 2048
    rw [FrameBuffer.toBytes_toArray]
    exact Vector.size_toArray _
  · exact i.state.frame.toBytes_getElem? k
  · exact ⟨step_toArrays i.state i.advancesIndex random, step_result i random⟩

end Interpreter

end Chip8
