import Chip8.Proofs.Instruction.Spelling
import Chip8.Proofs.Interpreter.Overlooked
import Chip8.Proofs.Interpreter.Run

/-!
# What a program makes by itself

Timers and keys are moved from outside, and the changed flags of the registers say what a snapshot
has looked at. `State.inner` is the state with these three blanked out. Whatever is done to an
interpreter between two steps, short of a new program, leaves the inner state alone
(`perform_inner`).

A step takes it from one inner state to the next, unless the instruction looks outside: five
instructions do, four of them at the timer or the keys, and one at a random byte. All others make
the same of the same inner state and report the same (`step_inner_congr`). So an inner state that
such a step leaves as it is stays for good (`run_of_fixed`).

That the rest of the state is untouched by the program is not said here. It is not: a program sets
the timers, and marks the registers it writes.
-/

set_option autoImplicit false

namespace Chip8

/-! ## Looking outside -/

/-- `CXNN`, `EX9E`, `EXA1`, `FX07` and `FX0A`. -/
def Opcode.looksOutside (op : Opcode) : Bool :=
  op.family = 0xC || (op.family = 0xE && (op.nn = 0x9E || op.nn = 0xA1))
    || (op.family = 0xF && (op.nn = 0x07 || op.nn = 0x0A))

namespace Instruction

def looksOutside : Instruction → Bool
  | random .. | skipIfPressed _ | skipIfNotPressed _ | copyDelayToRegister _ | waitForKey _ => true
  | _ => false

end Instruction

/-- The five opcodes are what the five instructions are decoded from. -/
theorem Opcode.decode_looksOutside (op : Opcode) :
    (Instruction.decode op).looksOutside = op.looksOutside := by
  have spelled := Instruction.decode_spelled op
  generalize Instruction.decode op = ins at spelled ⊢
  cases ins with
  | clearScreen | ret =>
    rw [spelled]
    rfl
  | unknown =>
    obtain ⟨family | family, _⟩ | ⟨family, _⟩ | ⟨family, low⟩ | ⟨family, low⟩ := spelled.1 <;>
      simp_all [Instruction.looksOutside, looksOutside]
  | _ => simp_all [Instruction.Spelled, Transfer, Instruction.looksOutside, looksOutside]

/-- A block of registers written over unmarked ones leaves nothing of the marks. -/
theorem Registers.unmarked_writeThrough (r : Registers) (x : Register)
    (value : Register → UInt8) :
    (r.unmarked.writeThrough x value).unmarked = (r.writeThrough x value).unmarked := by
  simp only [unmarked, writeThrough]

/-! ## One step -/

namespace State

/-- The state without what is moved or looked at from outside. -/
def inner (s : State) : State :=
  { s with registers := s.registers.unmarked, delayTimer := 0, soundTimer := 0,
           keypad := Keypad.idle }

variable {s t : State}

theorem inner_advanceIndex (h : s.inner = t.inner) (advances : Bool) (x : Register) :
    (s.advanceIndex advances x).inner = (t.advanceIndex advances x).inner := by
  cases advances with
  | false => exact h
  | true =>
    have hindex : s.inner.index = t.inner.index := congrArg State.index h
    have moved (i : UInt16) : { s with index := i }.inner = { t with index := i }.inner :=
      congrArg (fun r : State => { r with index := i }) h
    show { s with index := s.inner.index + _ }.inner = { t with index := t.inner.index + _ }.inner
    rw [hindex]
    exact moved _

/-- **An instruction that does not look outside** makes the same of a state and of what is inner to
it. -/
theorem execute_inner {ins : Instruction} (inward : ins.looksOutside = false) (advances : Bool)
    (random random' : UInt8) (pc : UInt16) (s : State) :
    (s.inner.execute advances random pc ins).map inner
      = (s.execute advances random' pc ins).map inner := by
  have skip (c : Bool) : (s.inner.skipIf c).inner = (s.skipIf c).inner := by cases c <;> rfl
  have hstack : s.inner.stack = s.stack := rfl
  have hpc : s.inner.pc = s.pc := rfl
  cases ins with
  | random | skipIfPressed | skipIfNotPressed | copyDelayToRegister | waitForKey => cases inward
  | ret =>
    simp only [execute, hstack]
    cases s.stack.pop? <;> rfl
  | call target =>
    simp only [execute, hstack, hpc]
    cases s.stack.push? s.pc <;> rfl
  | skipEqualConstant | skipNotEqualConstant | skipEqualRegister | skipNotEqualRegister =>
    exact congrArg Except.ok (skip _)
  | storeRegisters x =>
    refine congrArg Except.ok (inner_advanceIndex ?_ advances x)
    rfl
  | loadRegisters x =>
    refine congrArg Except.ok (inner_advanceIndex ?_ advances x)
    simp only [inner, Registers.unmarked_writeThrough]
  | _ => rfl

theorem inner_overlooks : Overlooks inner :=
  ⟨fun _ => rfl, fun _ => rfl, fun _ => rfl, fun _ => rfl, fun _ => rfl, fun _ => rfl,
    fun _ _ => rfl, fun _ => rfl⟩

theorem step_inner (inward : s.fetch.looksOutside = false) (advances : Bool)
    (random random' : UInt8) :
    (s.inner.step advances random).1.inner = (s.step advances random').1.inner
      ∧ (s.inner.step advances random).2 = (s.step advances random').2 :=
  inner_overlooks.step (execute_inner ((Opcode.decode_looksOutside s.fetch).trans inward) advances
    random random' s.pc { s.noted with pc := after s.pc })

/-- **Where two states are inwardly the same**, a step that does not look outside leaves them so and
reports the same. -/
theorem step_inner_congr (h : s.inner = t.inner) (inward : s.fetch.looksOutside = false)
    (advances : Bool) (random random' : UInt8) :
    (s.step advances random).1.inner = (t.step advances random').1.inner
      ∧ (s.step advances random).2 = (t.step advances random').2 := by
  have inward' : t.fetch.looksOutside = false := by
    have hfetch : s.inner.fetch = t.inner.fetch := congrArg State.fetch h
    exact (congrArg Opcode.looksOutside hfetch).symm.trans inward
  have hs := step_inner inward advances random random
  have ht := step_inner inward' advances random random'
  rw [← h] at ht
  exact ⟨hs.1.symm.trans ht.1, hs.2.symm.trans ht.2⟩

/-- The two states agree in program counter, index register, registers, stack, memory, frame buffer
and last instruction: in all that a program shows but its timers and the keys. -/
structure Alike (s t : State) : Prop where
  pc : s.pc = t.pc
  index : s.index = t.index
  values : s.registers.values = t.registers.values
  stack : s.stack = t.stack
  memory : s.memory = t.memory
  frame : s.frame = t.frame
  opcode : s.opcode = t.opcode
  last : s.last = t.last

theorem Alike.of_inner (h : s.inner = t.inner) : Alike s t := by
  have shown {α : Type} (f : State → α) : f s.inner = f t.inner := congrArg f h
  exact ⟨shown State.pc, shown State.index, shown fun r => r.registers.values, shown State.stack,
    shown State.memory, shown State.frame, shown State.opcode, shown State.last⟩

end State

/-! ## Runs -/

namespace Interpreter

theorem step_inner_congr {i j : Interpreter} (hadvances : i.advancesIndex = j.advancesIndex)
    (h : i.state.inner = j.state.inner) (inward : i.state.fetch.looksOutside = false)
    (random random' : UInt8) :
    (i.step random).1.state.inner = (j.step random').1.state.inner
      ∧ (i.step random).2 = (j.step random').2 := by
  obtain ⟨s, advances⟩ := i
  obtain ⟨t, _⟩ := j
  cases hadvances
  exact State.step_inner_congr h inward advances random random'

/-- Between two steps nothing inner changes, unless a new program is loaded. -/
theorem perform_inner (i : Interpreter) {op : Operation} (outside : op.isStep = false)
    (kept : op.replaces = false) : (i.perform op).state.inner = i.state.inner := by
  cases op with
  | load source => rw [perform_failed_load i kept]
  | step random => cases outside
  | tick | key | expire | clearKeys | snapshot => rfl

/-- **What a step leaves as it is stays**, if the step does not look outside. Say so of `i`:
whatever is done to an interpreter that is inwardly the same, short of a new program, leaves it the
same, and every step that it makes then reports what the step of `i` reports. -/
theorem run_of_fixed {i j : Interpreter} {random : UInt8}
    (inward : i.state.fetch.looksOutside = false)
    (fixed : (i.step random).1.state.inner = i.state.inner)
    (hadvances : i.advancesIndex = j.advancesIndex) (hinner : i.state.inner = j.state.inner)
    {later : List Operation} (kept : ∀ op ∈ later, op.replaces = false) :
    i.state.inner = (j.run later).state.inner
      ∧ ∀ random', ((j.run later).step random').2 = (i.step random).2 := by
  have stays : i.advancesIndex = (j.run later).advancesIndex
      ∧ i.state.inner = (j.run later).state.inner := by
    refine run_induction_unreplaced
      (P := fun k => i.advancesIndex = k.advancesIndex ∧ i.state.inner = k.state.inner)
      ?_ later kept ⟨hadvances, hinner⟩
    rintro k op hop ⟨hadvances, hinner⟩
    refine ⟨hadvances.trans (perform_advancesIndex k op).symm, ?_⟩
    cases hstep : op.isStep with
    | false => exact hinner.trans (perform_inner k hstep hop).symm
    | true =>
      obtain ⟨random', rfl⟩ := Operation.exists_of_isStep hstep
      exact fixed.symm.trans (step_inner_congr hadvances hinner inward random random').1
  refine ⟨stays.2, fun random' => ?_⟩
  exact (step_inner_congr stays.1 stays.2 inward random random').2.symm

end Interpreter

end Chip8
