import Chip8.Proofs.Interpreter.Frame
import Chip8.Proofs.Interpreter.Written

/-!
# What a step can touch

A step moves the program counter, notes its instruction, and touches what its opcode allows, which
is said in two tables: `State.Footprint`, and `Opcode.writes` for the registers and their marks. The
two flags that a step reports are down before it and after it. `nothing_else_changes` joins all
that, so nothing of the state is left open. An opcode without any effect of its own (`Opcode.Inert`)
is a row in which everything stays.
-/

set_option autoImplicit false

namespace Chip8

/-- `0NNN`, and the words that mean nothing. -/
def Opcode.Inert (op : Opcode) : Prop :=
  op.family = 0 ∧ op ≠ 0x00E0 ∧ op ≠ 0x00EE ∨ op.Undefined

instance (op : Opcode) : Decidable op.Inert := inferInstanceAs (Decidable (_ ∨ _))

namespace State

variable {advances : Bool} {op : Opcode} {s : State}

theorem execute_of_inert (inert : op.Inert) (s : State) (random : UInt8) (pc : UInt16) :
    s.execute advances random pc (Instruction.decode op) = .ok s := by
  rcases inert with ⟨family, notClear, notReturn⟩ | undefined
  · have decoded : Instruction.decode op = .machineCall op.nnn :=
      Instruction.decode_of_spelled ⟨family, notClear, notReturn, rfl⟩
    rw [decoded]
    rfl
  · have decoded : Instruction.decode op = .unknown op :=
      Instruction.decode_of_spelled ⟨undefined, rfl⟩
    rw [decoded]
    rfl

theorem Sound.step_flags (h : s.Sound) (advances : Bool) (random : UInt8) :
    (s.step advances random).1.redraw = s.redraw
      ∧ (s.step advances random).1.registers.dirty = s.registers.dirty := by
  have after := h.step advances random
  exact ⟨after.redraw.trans h.redraw.symm, after.dirty.trans h.dirty.symm⟩

theorem Sound.step_of_inert (h : s.Sound) (inert : s.fetch.Inert) (advances : Bool)
    (random : UInt8) : (s.step advances random).1 = { s.noted with pc := after s.pc } := by
  have reported : s.registers.reported = s.registers := by
    unfold Registers.reported
    rw [← h.dirty]
  have settled : s.settled = s := by
    unfold State.settled
    rw [reported, ← h.redraw]
  rw [step_of_execute (execute_of_inert inert _ random s.pc)]
  show { s.settled.noted with pc := after s.pc } = _
  rw [settled]

end State

namespace Interpreter

/-- **Nothing else changes.** After any run from the start, a step moves the program counter and
notes its instruction, and changes nothing else but what its opcode allows. Memory: three bytes from
`I` on with `FX33`, and `X + 1` bytes with `FX55`, all places wrapped. Screen: with `00E0` and
`DXYN`. Call stack: the depth with `2NNN` and `00EE`, and of the slots the one at the depth, with
`2NNN`. `I`: with `ANNN`, `FX1E`, `FX29`, and where the machine is set to advance it, with `FX55`
and `FX65`. Timers: each with one opcode. Keypad: never. Registers, with their marks: those that the
opcode writes. The two flags that wait to be reported: never. So an opcode that is inert has no
effect at all. -/
theorem nothing_else_changes (advances : Bool) (ops : List Operation) (random : UInt8) :
    let i := (new advances).run ops
    let s := i.state
    let t := (i.step random).1.state
    State.Footprint advances s.fetch s t
      ∧ (∀ r : Register, (t.registers.get r = s.registers.get r
            ∧ t.registers.changed.get r = s.registers.changed.get r)
          ∨ s.fetch.writes s.keypad.anyDown r = true)
      ∧ (t.redraw = s.redraw ∧ t.registers.dirty = s.registers.dirty)
      ∧ (s.fetch.Inert →
          t = { s with
            pc := State.after s.pc, opcode := s.fetch, last := some ⟨s.pc, s.fetch⟩ }) := by
  intro i s t
  have treated : i.advancesIndex = advances := run_advancesIndex (new advances) ops
  have sound : s.Sound := run_sound advances ops
  refine ⟨?_, fun r => ?_, sound.step_flags i.advancesIndex random,
    fun inert => sound.step_of_inert inert i.advancesIndex random⟩
  · have footprint : State.Footprint i.advancesIndex s.fetch s t :=
      s.step_footprint i.advancesIndex random
    rw [treated] at footprint
    exact footprint
  · obtain ⟨marked, kept⟩ := s.step_writes i.advancesIndex random r
    cases unwritten : s.writes r with
    | true => exact .inr unwritten
    | false =>
      rw [unwritten, Bool.or_false] at marked
      exact .inl ⟨kept unwritten, marked⟩

/-- Sets `I` to the last byte of memory and stores two registers there, with `I` to be advanced; the
word after that means nothing. -/
def storeOverTheTop : Source := ⟨[0xAF, 0xFF, 0xF1, 0x55, 0x81, 0x2F], none⟩

/-- The store takes the last byte and the first, so the second one stays, and so does the call
stack. The word without a meaning is passed over. -/
theorem nothing_else_changes_overTheTop :
    let i := (new true).run [.load storeOverTheTop, .step 0]
    let j := (new true).run [.load storeOverTheTop, .step 0, .step 0]
    i.state.fetch = 0xF155
      ∧ (i.step 0).1.state.memory.bytes.get 1 = i.state.memory.bytes.get 1
      ∧ (i.step 0).1.state.stack.depth = i.state.stack.depth
      ∧ (j.step 0).1.state
        = { j.state with pc := 0x206, opcode := 0x812F, last := some ⟨0x204, 0x812F⟩ } := by
  obtain ⟨footprint, -⟩ := nothing_else_changes true [.load storeOverTheTop, .step 0] 0
  obtain ⟨-, -, -, inert⟩ := nothing_else_changes true [.load storeOverTheTop, .step 0, .step 0] 0
  generalize stored : (new true).run [.load storeOverTheTop, .step 0] = i at footprint
  generalize passed : (new true).run [.load storeOverTheTop, .step 0, .step 0] = j at inert
  obtain ⟨fetched, index⟩ : i.state.fetch = 0xF155 ∧ i.state.index = 0xFFF := by
    rw [← stored]
    decide +kernel
  obtain ⟨meaningless, place⟩ : j.state.fetch = 0x812F ∧ j.state.pc = 0x204 := by
    rw [← passed]
    decide +kernel
  have byte := footprint.memory 1
  have depth := footprint.depth
  rw [fetched] at byte depth
  rw [index] at byte
  rw [meaningless, place] at inert
  exact ⟨fetched, byte.resolve_right (by decide), depth.resolve_right (by decide),
    inert (by decide)⟩

end Interpreter

end Chip8
