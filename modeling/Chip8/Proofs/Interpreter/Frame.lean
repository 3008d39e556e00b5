import Chip8.Proofs.Instruction.Spelling
import Chip8.Proofs.Interpreter.RegisterBlocks

/-!
# What a step leaves alone

Each component of the state is written by few opcodes, and most opcodes write few components.
`Footprint` is the table of that: for every component but the program counter, the registers and the
note of the last instruction, either it is as it was before the step, or the digits of the opcode
say why it need not be. Where a component has parts, the parts are told apart: the bytes of memory
by the places that `I` and the opcode name, the slots of the stack by the depth before the step.
What an instruction does to the components that it does write is read off `State.execute`, and not
repeated here.

The registers have a table of their own, `Opcode.writes`.
-/

set_option autoImplicit false

namespace Chip8

namespace CallStack

/-- A call writes the slot at the depth. -/
theorem slots_push? {c d : CallStack} {addr : UInt16} (pushed : c.push? addr = some d)
    (k : Fin 16) : d.slots.get k = c.slots.get k ∨ k.val = c.depth := by
  unfold push? at pushed
  split at pushed
  · next free =>
    cases pushed
    by_cases top : c.depth = k.val
    · exact .inr top.symm
    · exact .inl (Vector.getElem_set_ne free k.isLt top)
  · cases pushed

/-- A return writes no slot. -/
theorem slots_pop? {c d : CallStack} {addr : UInt16} (popped : c.pop? = some (addr, d)) :
    d.slots = c.slots := by
  obtain ⟨slots, depth, le⟩ := c
  cases depth with
  | zero => cases popped
  | succ n =>
    cases popped
    rfl

end CallStack

namespace State

/-- What an opcode leaves of the state `s` in the state `t` after it. -/
structure Footprint (advances : Bool) (op : Opcode) (s t : State) : Prop where
  memory (a : Address) : t.memory.bytes.get a = s.memory.bytes.get a
    ∨ op.Transfer 0x33 ∧ Memory.InBlock s.index.toNat 3 a.val
    ∨ op.Transfer 0x55 ∧ Memory.InBlock s.index.toNat (op.x.val + 1) a.val
  frame : t.frame = s.frame ∨ op = 0x00E0 ∨ op.family = 0xD
  depth : t.stack.depth = s.stack.depth ∨ op.family = 2 ∨ op = 0x00EE
  slots (k : Fin 16) : t.stack.slots.get k = s.stack.slots.get k
    ∨ op.family = 2 ∧ k.val = s.stack.depth
  index : t.index = s.index ∨ op.family = 0xA ∨ op.Transfer 0x1E ∨ op.Transfer 0x29
    ∨ advances = true ∧ (op.Transfer 0x55 ∨ op.Transfer 0x65)
  delayTimer : t.delayTimer = s.delayTimer ∨ op.Transfer 0x15
  soundTimer : t.soundTimer = s.soundTimer ∨ op.Transfer 0x18
  keypad : t.keypad = s.keypad

variable {advances : Bool} {op : Opcode} {s t : State}

theorem Footprint.refl (advances : Bool) (op : Opcode) (s : State) : Footprint advances op s s :=
  ⟨fun _ => .inl rfl, .inl rfl, .inl rfl, fun _ => .inl rfl, .inl rfl, .inl rfl, .inl rfl, rfl⟩

theorem Footprint.skipIf (advances : Bool) (op : Opcode) (s : State) (c : Bool) :
    Footprint advances op s (s.skipIf c) := by
  cases c <;> exact { Footprint.refl advances op s with }

theorem Footprint.advanceIndex (h : Footprint advances op s t)
    (moves : op.Transfer 0x55 ∨ op.Transfer 0x65) (x : Register) :
    Footprint advances op s (t.advanceIndex advances x) := by
  cases advances with
  | false => exact h
  | true => exact { h with index := .inr (.inr (.inr (.inr ⟨rfl, moves⟩))) }

theorem setAll_footprint (m : Memory) (addr : UInt16) (data : List UInt8) (a : Address) :
    (m.setAll addr data).bytes.get a = m.bytes.get a
      ∨ Memory.InBlock addr.toNat data.length a.val := by
  by_cases inside : Memory.InBlock addr.toNat data.length a.val
  · exact .inr inside
  · have kept := m.byteAt_setAll_of_not_inBlock addr inside
    rw [Memory.byteAt_val, Memory.byteAt_val] at kept
    exact .inl kept

/-- **An instruction that succeeds keeps to its footprint.** -/
theorem execute_footprint {random : UInt8} {pc : UInt16}
    (hex : s.execute advances random pc (Instruction.decode op) = .ok t) :
    Footprint advances op s t := by
  have spelled := Instruction.decode_spelled op
  have nothing := Footprint.refl advances op s
  generalize Instruction.decode op = ins at hex spelled
  cases ins with
  | clearScreen =>
    cases hex
    exact { nothing with frame := .inr (.inl spelled) }
  | draw =>
    cases hex
    exact { nothing with frame := .inr (.inr spelled.1) }
  | ret =>
    simp only [execute] at hex
    split at hex
    · cases hex
    · next popped =>
      cases hex
      have slots := CallStack.slots_pop? popped
      exact { nothing with
        depth := .inr (.inr spelled)
        slots := fun k => .inl (congrArg (fun v => v.get k) slots) }
  | call =>
    simp only [execute] at hex
    split at hex
    · cases hex
    · next pushed =>
      cases hex
      exact { nothing with
        depth := .inr (.inl spelled.1)
        slots := fun k => (CallStack.slots_push? pushed k).imp_right fun top => ⟨spelled.1, top⟩ }
  -- whether a key is down or not, only a register and the program counter move, and the footprint
  -- speaks of neither
  -- whether a key is down or not, only a register and the program counter move, and the footprint
  -- speaks of neither
  | waitForKey =>
    simp only [execute] at hex
    split at hex <;> cases hex <;> exact { nothing with }
  | skipEqualConstant | skipNotEqualConstant | skipEqualRegister | skipNotEqualRegister
  | skipIfPressed | skipIfNotPressed =>
    cases hex
    exact .skipIf _ _ _ _
  | setIndex =>
    cases hex
    exact { nothing with index := .inr (.inl spelled.1) }
  | addToIndex =>
    cases hex
    exact { nothing with index := .inr (.inr (.inl spelled.1)) }
  | pointAtGlyph =>
    cases hex
    exact { nothing with index := .inr (.inr (.inr (.inl spelled.1))) }
  | copyRegisterToDelay =>
    cases hex
    exact { nothing with delayTimer := .inr spelled.1 }
  | copyRegisterToSound =>
    cases hex
    exact { nothing with soundTimer := .inr spelled.1 }
  | storeDecimal =>
    cases hex
    exact { nothing with
      memory := fun a =>
        (setAll_footprint _ _ _ a).imp_right fun inside => .inl ⟨spelled.1, inside⟩ }
  | storeRegisters x =>
    obtain ⟨transfer, rfl⟩ := spelled
    -- both the block of bytes and, on machines that move it, the index register change; the bytes
    -- are those at the old index
    -- both the block of bytes and, on machines that move it, the index register change; the bytes
    -- are those at the old index
    have stored := setAll_footprint s.memory s.index (s.registers.upTo op.x)
    rw [Registers.length_upTo] at stored
    cases hex
    refine Footprint.advanceIndex ?_ (.inl transfer) op.x
    exact { nothing with
      memory := fun a => (stored a).imp_right fun inside => .inr ⟨transfer, inside⟩ }
  | loadRegisters x =>
    cases hex
    refine Footprint.advanceIndex ?_ (.inr spelled.1) x
    exact { nothing with }
  | _ =>
    cases hex
    exact { nothing with }

/-- **A step keeps to the footprint of its opcode**, whether or not it fails. -/
theorem step_footprint (s : State) (advances : Bool) (random : UInt8) :
    Footprint advances s.fetch s (s.step advances random).1 := by
  unfold step
  split
  · exact { Footprint.refl advances s.fetch s with }
  · next t hex => exact { execute_footprint hex with }

theorem Footprint.stack (h : Footprint advances op s t) (hcall : op.family ≠ 2)
    (hret : op ≠ 0x00EE) : t.stack = s.stack := by
  have slots : t.stack.slots = s.stack.slots :=
    Vector.ext fun k hk => (h.slots ⟨k, hk⟩).resolve_right fun called => hcall called.1
  have depth : t.stack.depth = s.stack.depth :=
    h.depth.resolve_right fun moved => moved.elim hcall hret
  cases hs : s.stack
  cases ht : t.stack
  rw [hs, ht] at slots depth
  cases slots
  cases depth
  rfl

/-! ## The note of the last instruction -/

/-- No instruction touches what is remembered of it. -/
theorem execute_note {advances : Bool} {random : UInt8} {pc : UInt16} {ins : Instruction}
    (hex : s.execute advances random pc ins = .ok t) : t.last = s.last ∧ t.opcode = s.opcode := by
  have skipped (c : Bool) : (s.skipIf c).last = s.last ∧ (s.skipIf c).opcode = s.opcode := by
    cases c <;> exact ⟨rfl, rfl⟩
  have advanced (u : State) (x : Register) :
      (u.advanceIndex advances x).last = u.last ∧ (u.advanceIndex advances x).opcode = u.opcode := by
    cases advances <;> exact ⟨rfl, rfl⟩
  cases ins with
  | ret | call | waitForKey =>
    simp only [execute] at hex
    split at hex <;> cases hex <;> exact ⟨rfl, rfl⟩
  | skipEqualConstant | skipNotEqualConstant | skipEqualRegister | skipNotEqualRegister
  | skipIfPressed | skipIfNotPressed =>
    cases hex
    exact skipped _
  | storeRegisters x | loadRegisters x =>
    cases hex
    exact advanced _ x
  | _ =>
    cases hex
    exact ⟨rfl, rfl⟩

/-- **The last instruction is the one that was tried last**, whatever came of it. -/
theorem step_last (s : State) (advances : Bool) (random : UInt8) :
    (s.step advances random).1.last = some ⟨s.pc, s.fetch⟩ := by
  unfold step
  split
  · rfl
  · next done hex => exact (execute_note hex).1

theorem step_opcode (s : State) (advances : Bool) (random : UInt8) :
    (s.step advances random).1.opcode = s.fetch := by
  unfold step
  split
  · rfl
  · next done hex => exact (execute_note hex).2

end State

end Chip8
