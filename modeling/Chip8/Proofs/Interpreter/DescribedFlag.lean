import Chip8.Proofs.Interpreter.Arithmetic
import Chip8.Proofs.Interpreter.Frame
import Chip8.Snapshot

/-!
# The flag that is described

Whoever looks at the machine is told of every instruction what it does, and of five of them what
they do to `VF`. This file compares what is told (`Opcode.flagNote?`) with what comes of the
instruction. They agree for sums and shifts. For differences they agree unless the two numbers are
the same (`flag_as_described`): nothing is borrowed then, so the description promises 1, but what an
instruction looks for is a number that is greater than the other, and it leaves 0.

A program that subtracts numbers of several bytes needs the flag as it is described, as the next
byte has to make up for a borrow and for nothing else. It gets the difference wrong by a borrow that
did not take place.
-/

set_option autoImplicit false

namespace Chip8

/-! ## What is told -/

/-- What is told of an instruction, and the flag that it promises. -/
structure FlagNote where
  text : String
  flag : Nat
  deriving DecidableEq

namespace Opcode

/-- What is told of the five instructions that set a flag, with `a` in `VX` and `b` in `VY`. There is
a borrow if the number that is subtracted is the larger one. -/
def flagNote? (op : Opcode) (a b : Nat) : Option FlagNote :=
  let x := Instruction.registerName op.x
  let y := Instruction.registerName op.y
  match op.family.val, op.n.val with
  | 0x8, 0x4 => some
    ⟨s!"Adds {y} to {x}. VF is set to 1 on carry, 0 otherwise.", if 255 < a + b then 1 else 0⟩
  | 0x8, 0x5 => some
    ⟨s!"Subtracts {y} from {x}. VF is set to 0 on borrow, 1 otherwise.", if a < b then 0 else 1⟩
  | 0x8, 0x6 => some
    ⟨s!"Shifts {x} right by one. VF is set to the bit shifted out.", a % 2⟩
  | 0x8, 0x7 => some
    ⟨s!"Sets {x} to {y} - {x}. VF is set to 0 on borrow, 1 otherwise.", if b < a then 0 else 1⟩
  | 0x8, 0xE => some
    ⟨s!"Shifts {x} left by one. VF is set to the bit shifted out.", a / 128⟩
  | _, _ => none

/-- `8XY5` and `8XY7`. -/
def Subtracts (op : Opcode) : Prop := op.family.val = 0x8 ∧ (op.n.val = 0x5 ∨ op.n.val = 0x7)

variable {op : Opcode} {a b : Nat} {note : FlagNote}

/-- The notes are the descriptions of the instructions. -/
theorem decode_description (h : op.flagNote? a b = some note) :
    (Instruction.decode op).description = note.text := by
  unfold flagNote? at h
  split at h <;> cases h
  all_goals
    next family last =>
    simp only [Instruction.decode, Instruction.decodeArithmetic, family, last]
    rfl

/-- **The flag that is promised is the flag that there is**, unless equal numbers are subtracted. -/
theorem exists_computed_of_flagNote (h : op.flagNote? a b = some note) :
    ∃ result flag, op.computed? a b = some ⟨result, some flag⟩
      ∧ (¬ (op.Subtracts ∧ a = b) → flag = note.flag)
      ∧ (op.Subtracts ∧ a = b → flag = 0 ∧ note.flag = 1) := by
  unfold flagNote? at h
  split at h <;> cases h
  case h_1 family last | h_3 family last | h_5 family last =>
    refine ⟨_, _, by simp only [computed?, family, last]; rfl, fun _ => rfl, fun same => ?_⟩
    simp only [Subtracts, family, last] at same
    omega
  case h_2 family last | h_4 family last =>
    refine ⟨_, _, by simp only [computed?, family, last]; rfl, fun differs => ?_, fun same => ?_⟩
    · have apart : a ≠ b := fun e => differs ⟨⟨family, by omega⟩, e⟩
      dsimp only
      split <;> split <;> omega
    · simp [same.2]

/-- The difference of two bytes is what is left of it, less a borrow of 256 if the flag is 0,
exactly if the bytes differ. -/
theorem difference_iff {result flag : Nat} (forward : op.family = 8 ∧ op.n = 5)
    (bounds : a < 256 ∧ b < 256) (h : op.computed? a b = some ⟨result, some flag⟩) :
    (a : Int) - b = result - 256 * (1 - flag) ↔ a ≠ b := by
  have left : op.computed? a b = some ⟨(a + 256 - b) % 256, some (if b < a then 1 else 0)⟩ := by
    unfold computed?
    rw [forward.1, forward.2]
    rfl
  cases left.symm.trans h
  split <;> omega

end Opcode

/-- Whoever is shown the last instruction is shown its description. -/
theorem Snapshot.description_mem_infoRows {v : Snapshot} {l : Listing} (h : v.last = some l) :
    "Desc: " ++ l.description ∈ v.infoRows := by
  unfold infoRows
  rw [h]
  exact .tail _ (.tail _ (.tail _ (.head _)))

namespace Interpreter

/-- After a step, what is told of its instruction is shown. -/
theorem step_shows_note (i : Interpreter) (random : UInt8) {a b : Nat} {note : FlagNote}
    (noted : i.state.fetch.flagNote? a b = some note) :
    "Desc: " ++ note.text ∈ (i.step random).1.state.snapshot.1.infoRows := by
  have shown : (i.step random).1.state.view.last = some ⟨i.state.pc, i.state.fetch⟩ :=
    i.state.step_last i.advancesIndex random
  have told := Snapshot.description_mem_infoRows shown
  rw [← Opcode.decode_description noted]
  exact told

/-- **The flag is as it is described, unless equal numbers are subtracted.** Take one of the five
instructions that set a flag, whichever registers it is about. The description that is shown of it
after the step promises a flag, and that is what `VF` holds then; but after `8XY5` and `8XY7` with
the same number on both sides `VF` is 0, and 1 was promised. So the difference of two bytes can be
told from the byte that is left of it and from the flag, a flag of 0 standing for a borrow of 256,
exactly if the two bytes differ. -/
theorem flag_as_described (i : Interpreter) (random : UInt8) {note : FlagNote}
    (noted : i.state.fetch.flagNote? (i.state.registers.get i.state.fetch.x).toNat
      (i.state.registers.get i.state.fetch.y).toNat = some note) :
    let op := i.state.fetch
    let after := (i.step random).1.state
    let a := (i.state.registers.get op.x).toNat
    let b := (i.state.registers.get op.y).toNat
    let flag := (after.registers.get Registers.VF).toNat
    "Desc: " ++ note.text ∈ after.snapshot.1.infoRows
      ∧ (¬ (op.Subtracts ∧ a = b) → flag = note.flag)
      ∧ (op.Subtracts ∧ a = b → flag = 0 ∧ note.flag = 1)
      ∧ (op.family = 8 ∧ op.n = 5 → op.x ≠ Registers.VF →
          ((a : Int) - b = (after.registers.get op.x).toNat - 256 * (1 - flag) ↔ a ≠ b)) := by
  intro op after a b flag
  obtain ⟨result, f, computed, agrees, differs⟩ := Opcode.exists_computed_of_flagNote noted
  have left := i.state.step_computed i.advancesIndex random computed
  have raised : flag = f := (left.flag rfl).1
  refine ⟨i.step_shows_note random noted, fun other => raised.trans (agrees other), fun same => ?_,
    fun forward apart => ?_⟩
  · rw [raised]
    exact differs same
  · have rest : (after.registers.get op.x).toNat = result := left.result (.inr apart)
    rw [rest, raised]
    exact Opcode.difference_iff forward ⟨UInt8.toNat_lt _, UInt8.toNat_lt _⟩ computed

/-- Subtracts `V2` from `V1`. -/
def subtraction (a b : UInt8) : Source := ⟨[0x61, a, 0x62, b, 0x81, 0x25], none⟩

/-- The run up to the subtraction. -/
def aboutToSubtract (a b : UInt8) : List Operation := [.load (subtraction a b), .step 0, .step 0]

/-- `3 - 5` leaves 254 and a borrow. -/
theorem flag_as_described_borrowed :
    (∃ note, ((new false).run (aboutToSubtract 3 5)).state.fetch.flagNote? 3 5 = some note)
      ∧ ((((new false).run (aboutToSubtract 3 5)).step 0).1.state.registers.get
          Registers.VF).toNat = 0
      ∧ (3 : Int) - 5
        = ((((new false).run (aboutToSubtract 3 5)).step 0).1.state.registers.get 1).toNat
          - 256 * (1 - ((((new false).run (aboutToSubtract 3 5)).step 0).1.state.registers.get
            Registers.VF).toNat) := by
  generalize stated : (new false).run (aboutToSubtract 3 5) = i
  obtain ⟨fetched, first, second⟩ : i.state.fetch = 0x8125
      ∧ i.state.registers.get 1 = 3 ∧ i.state.registers.get 2 = 5 := by
    rw [← stated]
    decide +kernel
  have operands : Opcode.x 0x8125 = 1 ∧ Opcode.y 0x8125 = 2 := ⟨rfl, rfl⟩
  have noted : i.state.fetch.flagNote? (i.state.registers.get i.state.fetch.x).toNat
      (i.state.registers.get i.state.fetch.y).toNat
        = some ⟨"Subtracts V2 from V1. VF is set to 0 on borrow, 1 otherwise.", 0⟩ := by
    rw [fetched, operands.1, operands.2, first, second]
    decide +kernel
  obtain ⟨-, agrees, -, difference⟩ := flag_as_described i 0 noted
  rw [fetched, operands.1, operands.2, first, second] at noted agrees difference
  refine ⟨⟨_, by rw [fetched]; exact noted⟩, agrees fun same => absurd same.2 (by decide), ?_⟩
  exact (difference ⟨rfl, rfl⟩ (by decide)).mpr (by decide)

/-- `4 - 4` borrows nothing. Its description promises a flag of 1 then, but the flag is 0, and taken
for a borrow it makes the difference 256 too small. -/
theorem flag_without_borrow :
    ((new false).run (aboutToSubtract 4 4)).state.fetch.flagNote? 4 4
        = some ⟨"Subtracts V2 from V1. VF is set to 0 on borrow, 1 otherwise.", 1⟩
      ∧ "Desc: Subtracts V2 from V1. VF is set to 0 on borrow, 1 otherwise."
        ∈ (((new false).run (aboutToSubtract 4 4)).step 0).1.state.snapshot.1.infoRows
      ∧ ((((new false).run (aboutToSubtract 4 4)).step 0).1.state.registers.get
          Registers.VF).toNat = 0
      ∧ ((((new false).run (aboutToSubtract 4 4)).step 0).1.state.registers.get 1).toNat
          - 256 * (1 - (0 : Int)) ≠ 4 - 4 := by
  decide +kernel

end Interpreter

end Chip8
