import Chip8.Instruction

/-!
# How instructions are spelled

An instruction is spelled by four digits: some are fixed and name the operation, the others carry
its operands. `Instruction.Spelled` is the table of that, one row for each operation, and
`spelled_iff` says that decoding an opcode is looking it up there. The words that no row spells are
`Opcode.Undefined`.

Where a statement speaks of what "the opcode `FX55`" does, the digits are those of this table, and
the instruction is got from it, or the digits from the instruction.
-/

set_option autoImplicit false

namespace Chip8

namespace Opcode

/-- `FX..`, with these two last digits. -/
def Transfer (op : Opcode) (low : UInt8) : Prop := op.family = 0xF ∧ op.nn = low

instance (op : Opcode) (low : UInt8) : Decidable (op.Transfer low) :=
  inferInstanceAs (Decidable (_ ∧ _))

/-- Words whose digits name no operation. -/
def Undefined (op : Opcode) : Prop :=
  (op.family = 5 ∨ op.family = 9) ∧ op.n ≠ 0
    ∨ op.family = 8 ∧ 7 < op.n ∧ op.n ≠ 0xE
    ∨ op.family = 0xE ∧ op.nn ≠ 0x9E ∧ op.nn ≠ 0xA1
    ∨ op.family = 0xF ∧ op.nn ∉ [0x07, 0x0A, 0x15, 0x18, 0x1E, 0x29, 0x33, 0x55, 0x65]

instance (op : Opcode) : Decidable op.Undefined := inferInstanceAs (Decidable (_ ∨ _))

end Opcode

namespace Instruction

/-- The digits of the opcode are those of the instruction. -/
def Spelled (op : Opcode) : Instruction → Prop
  | machineCall target => op.family = 0 ∧ op ≠ 0x00E0 ∧ op ≠ 0x00EE ∧ op.nnn = target
  | clearScreen => op = 0x00E0
  | ret => op = 0x00EE
  | jump target => op.family = 1 ∧ op.nnn = target
  | call target => op.family = 2 ∧ op.nnn = target
  | skipEqualConstant x nn => op.family = 3 ∧ op.x = x ∧ op.nn = nn
  | skipNotEqualConstant x nn => op.family = 4 ∧ op.x = x ∧ op.nn = nn
  | skipEqualRegister x y => op.family = 5 ∧ op.n = 0 ∧ op.x = x ∧ op.y = y
  | setRegister x nn => op.family = 6 ∧ op.x = x ∧ op.nn = nn
  | addToRegister x nn => op.family = 7 ∧ op.x = x ∧ op.nn = nn
  | copyRegister x y => op.family = 8 ∧ op.n = 0 ∧ op.x = x ∧ op.y = y
  | bitOr x y => op.family = 8 ∧ op.n = 1 ∧ op.x = x ∧ op.y = y
  | bitAnd x y => op.family = 8 ∧ op.n = 2 ∧ op.x = x ∧ op.y = y
  | bitXor x y => op.family = 8 ∧ op.n = 3 ∧ op.x = x ∧ op.y = y
  | add x y => op.family = 8 ∧ op.n = 4 ∧ op.x = x ∧ op.y = y
  | subtractForward x y => op.family = 8 ∧ op.n = 5 ∧ op.x = x ∧ op.y = y
  | rightShift x y => op.family = 8 ∧ op.n = 6 ∧ op.x = x ∧ op.y = y
  | subtractBackward x y => op.family = 8 ∧ op.n = 7 ∧ op.x = x ∧ op.y = y
  | leftShift x y => op.family = 8 ∧ op.n = 0xE ∧ op.x = x ∧ op.y = y
  | skipNotEqualRegister x y => op.family = 9 ∧ op.n = 0 ∧ op.x = x ∧ op.y = y
  | setIndex target => op.family = 0xA ∧ op.nnn = target
  | jumpWithOffset target => op.family = 0xB ∧ op.nnn = target
  | random x nn => op.family = 0xC ∧ op.x = x ∧ op.nn = nn
  | draw x y n => op.family = 0xD ∧ op.x = x ∧ op.y = y ∧ op.n = n
  | skipIfPressed x => op.family = 0xE ∧ op.nn = 0x9E ∧ op.x = x
  | skipIfNotPressed x => op.family = 0xE ∧ op.nn = 0xA1 ∧ op.x = x
  | copyDelayToRegister x => op.Transfer 0x07 ∧ op.x = x
  | waitForKey x => op.Transfer 0x0A ∧ op.x = x
  | copyRegisterToDelay x => op.Transfer 0x15 ∧ op.x = x
  | copyRegisterToSound x => op.Transfer 0x18 ∧ op.x = x
  | addToIndex x => op.Transfer 0x1E ∧ op.x = x
  | pointAtGlyph x => op.Transfer 0x29 ∧ op.x = x
  | storeDecimal x => op.Transfer 0x33 ∧ op.x = x
  | storeRegisters x => op.Transfer 0x55 ∧ op.x = x
  | loadRegisters x => op.Transfer 0x65 ∧ op.x = x
  | unknown word => op.Undefined ∧ op = word

variable {op : Opcode}

theorem decodeArithmetic_spelled (family : op.family = 8) :
    (decodeArithmetic op).Spelled op := by
  unfold decodeArithmetic
  split
  case h_10 =>
    refine ⟨.inr (.inl ⟨family, ?_⟩), rfl⟩
    grind
  all_goals
    next last => exact ⟨family, Fin.ext last, rfl, rfl⟩

theorem decodeKeySkip_spelled (family : op.family = 0xE) : (decodeKeySkip op).Spelled op := by
  unfold decodeKeySkip
  split
  case h_3 other other' =>
    refine ⟨.inr (.inr (.inl ⟨family, fun e => other ?_, fun e => other' ?_⟩)), rfl⟩ <;>
      rw [e] <;> rfl
  all_goals
    next low => exact ⟨family, UInt8.toNat_inj.mp low, rfl⟩

theorem decodeTransfer_spelled (family : op.family = 0xF) : (decodeTransfer op).Spelled op := by
  unfold decodeTransfer
  split
  case h_10 =>
    refine ⟨.inr (.inr (.inr ⟨family, ?_⟩)), rfl⟩
    simp_all [← UInt8.toNat_inj]
  all_goals
    next low => exact ⟨⟨family, UInt8.toNat_inj.mp low⟩, rfl⟩

/-- Decoding looks at the digits that name the operation, and takes the others for operands. -/
theorem decode_spelled (op : Opcode) : (decode op).Spelled op := by
  unfold decode
  split
  case h_1 family =>
    -- two words of this family are operations of their own, and the rest are calls of host routines
    by_cases clears : op = 0x00E0
    · rw [if_pos clears]
      exact clears
    · rw [if_neg clears]
      by_cases returns : op = 0x00EE
      · rw [if_pos returns]
        exact returns
      · rw [if_neg returns]
        exact ⟨Fin.ext family, clears, returns, rfl⟩
  case h_6 family =>
    by_cases last : op.n = 0
    · rw [if_pos last]
      exact ⟨Fin.ext family, last, rfl, rfl⟩
    · rw [if_neg last]
      exact ⟨.inl ⟨.inl (Fin.ext family), last⟩, rfl⟩
  case h_10 family =>
    by_cases last : op.n = 0
    · rw [if_pos last]
      exact ⟨Fin.ext family, last, rfl, rfl⟩
    · rw [if_neg last]
      exact ⟨.inl ⟨.inr (Fin.ext family), last⟩, rfl⟩
  case h_9 family => exact decodeArithmetic_spelled (Fin.ext family)
  case h_15 family => exact decodeKeySkip_spelled (Fin.ext family)
  -- no other digit is left for the first one
  case h_16 =>
    refine decodeTransfer_spelled (Fin.ext ?_)
    show op.family.val = 15
    grind
  case h_2 family | h_3 family | h_11 family | h_12 family => exact ⟨Fin.ext family, rfl⟩
  case h_4 family | h_5 family | h_7 family | h_8 family | h_13 family =>
    exact ⟨Fin.ext family, rfl, rfl⟩
  case h_14 family => exact ⟨Fin.ext family, rfl, rfl, rfl⟩

/-- The digits leave no choice: an opcode spells one instruction. -/
theorem decode_of_spelled {ins : Instruction} (spelled : ins.Spelled op) : decode op = ins := by
  cases ins with
  | clearScreen | ret =>
    cases spelled
    rfl
  | machineCall =>
    obtain ⟨family, notClear, notReturn, rfl⟩ := spelled
    simp only [decode, family]
    exact (if_neg notClear).trans (if_neg notReturn)
  | jump | call | setIndex | jumpWithOffset =>
    obtain ⟨family, rfl⟩ := spelled
    simp only [decode, family]
    rfl
  | skipEqualConstant | skipNotEqualConstant | setRegister | addToRegister | random =>
    obtain ⟨family, rfl, rfl⟩ := spelled
    simp only [decode, family]
    rfl
  | draw =>
    obtain ⟨family, rfl, rfl, rfl⟩ := spelled
    simp only [decode, family]
    rfl
  | skipEqualRegister | skipNotEqualRegister =>
    obtain ⟨family, last, rfl, rfl⟩ := spelled
    simp only [decode, family]
    exact if_pos last
  | copyRegister | bitOr | bitAnd | bitXor | add | subtractForward | rightShift | subtractBackward
  | leftShift =>
    obtain ⟨family, last, rfl, rfl⟩ := spelled
    simp only [decode, decodeArithmetic, family, last]
    rfl
  | skipIfPressed | skipIfNotPressed =>
    obtain ⟨family, low, rfl⟩ := spelled
    simp only [decode, decodeKeySkip, family, low]
    rfl
  | copyDelayToRegister | waitForKey | copyRegisterToDelay | copyRegisterToSound | addToIndex
  | pointAtGlyph | storeDecimal | storeRegisters | loadRegisters =>
    obtain ⟨⟨family, low⟩, rfl⟩ := spelled
    simp only [decode, decodeTransfer, family, low]
    rfl
  | unknown =>
    obtain ⟨undefined, rfl⟩ := spelled
    -- where the table has a hole, each of the five families with holes falls through to `unknown`
    rcases undefined with ⟨family | family, last⟩ | ⟨family, last⟩ | ⟨family, low⟩ | ⟨family, low⟩
    · simp only [decode, family]
      exact if_neg last
    · simp only [decode, family]
      exact if_neg last
    · simp only [decode, family]
      show decodeArithmetic op = _
      unfold decodeArithmetic
      split <;> grind
    · simp only [decode, family]
      show decodeKeySkip op = _
      unfold decodeKeySkip
      split <;> simp_all [← UInt8.toNat_inj]
    · simp only [decode, family]
      show decodeTransfer op = _
      unfold decodeTransfer
      split <;> simp_all [← UInt8.toNat_inj]

/-- **Decoding is looking the digits up.** -/
theorem spelled_iff {ins : Instruction} : ins.Spelled op ↔ decode op = ins :=
  ⟨decode_of_spelled, fun decoded => decoded ▸ decode_spelled op⟩

end Instruction

end Chip8
