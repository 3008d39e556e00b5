import Chip8.Proofs.Interpreter.Written

/-!
# Arithmetic in numbers

An arithmetic instruction reads two registers, writes one of them and, if it is one of the five that
set a flag, `VF` behind it. `Opcode.computed?` says what comes of it in numbers: the result, and the
flag if there is one. `Computed.Left` says where the two are found afterwards, and there lies the one
difficulty: any of the registers may be the same. What is read is what was there before, the flag
wins over the result, and whatever is not named stays, its mark included (`step_computed`).

What the descriptions of these instructions say about the flag is another matter, and another file.
-/

set_option autoImplicit false

namespace Chip8

/-! ## Results and flags -/

/-- What comes of an arithmetic instruction, in numbers. -/
structure Computed where
  /-- for `VX` -/
  result : Nat
  /-- for `VF`, if the instruction sets it -/
  flag : Option Nat

/-- What comes of `6XNN`, `7XNN` and `8XY0` to `8XYE`, with `a` in `VX` and `b` in `VY`. -/
def Opcode.computed? (op : Opcode) (a b : Nat) : Option Computed :=
  match op.family.val, op.n.val with
  | 0x6, _ => some ⟨op.nn.toNat, none⟩
  | 0x7, _ => some ⟨(a + op.nn.toNat) % 256, none⟩
  | 0x8, 0x0 => some ⟨b, none⟩
  | 0x8, 0x1 => some ⟨a ||| b, none⟩
  | 0x8, 0x2 => some ⟨a &&& b, none⟩
  | 0x8, 0x3 => some ⟨a ^^^ b, none⟩
  | 0x8, 0x4 => some ⟨(a + b) % 256, some (if 255 < a + b then 1 else 0)⟩
  | 0x8, 0x5 => some ⟨(a + 256 - b) % 256, some (if b < a then 1 else 0)⟩
  | 0x8, 0x6 => some ⟨a / 2, some (a % 2)⟩
  | 0x8, 0x7 => some ⟨(b + 256 - a) % 256, some (if a < b then 1 else 0)⟩
  | 0x8, 0xE => some ⟨2 * a % 256, some (a / 128)⟩
  | _, _ => none

/-- `6XNN`, `7XNN`, `8XY0` to `8XY7` and `8XYE`. -/
def Opcode.Arithmetic (op : Opcode) : Prop :=
  op.family.val = 0x6 ∨ op.family.val = 0x7
    ∨ op.family.val = 0x8 ∧ (op.n.val ≤ 0x7 ∨ op.n.val = 0xE)

theorem Opcode.Arithmetic.exists_computed {op : Opcode} (h : op.Arithmetic) (a b : Nat) :
    ∃ o, op.computed? a b = some o := by
  unfold Arithmetic at h
  unfold computed?
  split
  case h_12 => exfalso; grind
  all_goals exact ⟨_, rfl⟩

namespace Computed

/-- What is computed is found in the registers `after`, if `VX` is where it was meant to go. -/
structure Left (o : Computed) (x : Register) (before after : Registers) : Prop where
  flag {f : Nat} : o.flag = some f →
    (after.get Registers.VF).toNat = f ∧ after.changed.get Registers.VF = true
  /-- unless the flag has taken its place -/
  result : o.flag = none ∨ x ≠ Registers.VF → (after.get x).toNat = o.result
  kept {r : Register} : r ≠ x → o.flag = none ∨ r ≠ Registers.VF →
    after.get r = before.get r ∧ after.changed.get r = before.changed.get r

/-- What was not written has the value it had, and the mark. -/
theorem kept_of_wrote {w : Register → Bool} {before after : Registers}
    (wrote : before.Wrote w after) {r : Register} (unwritten : w r = false) :
    after.get r = before.get r ∧ after.changed.get r = before.changed.get r :=
  ⟨wrote.kept unwritten, by rw [wrote.changed, unwritten, Bool.or_false]⟩

theorem Left.write (before : Registers) (x : Register) {value : UInt8} {n : Nat}
    (number : value.toNat = n) :
    Left ⟨n, none⟩ x before (before.write x value).reported where
  flag none := by cases none
  result _ := by
    show ((before.write x value).get x).toNat = n
    rw [Registers.get_write_self, number]
  kept other _ := kept_of_wrote (Registers.Wrote.write before x value) (decide_eq_false other)

theorem Left.writeFlag (before : Registers) (x : Register) {value flag : UInt8} {n f : Nat}
    (number : value.toNat = n) (raised : flag.toNat = f) :
    Left ⟨n, some f⟩ x before ((before.write x value).write Registers.VF flag).reported := by
  have wrote := (Registers.Wrote.write before x value).trans (.write _ Registers.VF flag)
  refine ⟨fun same => ?_, fun distinct => ?_, fun other distinct => ?_⟩
  · cases same
    refine ⟨?_, (wrote.changed Registers.VF).trans (by simp)⟩
    show (((before.write x value).write Registers.VF flag).get Registers.VF).toNat = f
    rw [Registers.get_write_self, raised]
  · have apart : Registers.VF ≠ x := (distinct.resolve_left nofun).symm
    show (((before.write x value).write Registers.VF flag).get x).toNat = n
    rw [Registers.get_write_of_ne _ _ apart, Registers.get_write_self, number]
  · have apart := distinct.resolve_left nofun
    exact kept_of_wrote wrote (by simp [other, apart])

end Computed

/-! ## Bytes and numbers -/

namespace UInt8

theorem toNat_difference (a b : UInt8) : (a - b).toNat = (a.toNat + 256 - b.toNat) % 256 := by
  have := b.toNat_lt
  rw [UInt8.toNat_sub]
  omega

theorem toNat_half (a : UInt8) : (a >>> 1).toNat = a.toNat / 2 := by
  rw [UInt8.toNat_shiftRight]
  exact Nat.shiftRight_eq_div_pow _ 1

theorem toNat_double (a : UInt8) : (a <<< 1).toNat = 2 * a.toNat % 256 := by
  rw [UInt8.toNat_shiftLeft, Nat.mul_comm]
  exact congrArg (· % 256) (Nat.shiftLeft_eq _ 1)

/-- A condition as the byte that `VF` holds, and as the number that byte stands for. -/
theorem toNat_flag (c : Prop) [Decidable c] :
    (if decide c = true then 1 else 0 : UInt8).toNat = if c then 1 else 0 := by
  by_cases h : c <;> simp [h]

theorem toNat_lowBit (a : UInt8) :
    (if (a % 2 == 1) = true then 1 else 0 : UInt8).toNat = a.toNat % 2 := by
  have parity : (a % 2 == 1) = decide (a.toNat % 2 = 1) := by
    rw [Bool.eq_iff_iff, beq_iff_eq, ← UInt8.toNat_inj, UInt8.toNat_mod, decide_eq_true_eq]
    rfl
  rw [parity, toNat_flag]
  split <;> omega

theorem toNat_highBit (a : UInt8) :
    (if decide (128 ≤ a) = true then 1 else 0 : UInt8).toNat = a.toNat / 128 := by
  have := a.toNat_lt
  have large : 128 ≤ a ↔ 128 ≤ a.toNat := UInt8.le_iff_toNat_le
  simp only [toNat_flag, large]
  split <;> omega

end UInt8

/-! ## One step -/

namespace State

variable {s : State} {advances : Bool} {random : UInt8} {x : Register}

theorem step_write {value : UInt8} {n : Nat}
    (executed : ({ s.noted with pc := after s.pc } : State).execute advances random s.pc
        (Instruction.decode s.fetch)
      = .ok (({ s.noted with pc := after s.pc } : State).setRegister x value))
    (number : value.toNat = n) :
    Computed.Left ⟨n, none⟩ x s.registers (s.step advances random).1.registers := by
  rw [step_of_execute executed]
  exact .write s.registers x number

theorem step_writeFlag {value : UInt8} {flag : Bool} {n f : Nat}
    (executed : ({ s.noted with pc := after s.pc } : State).execute advances random s.pc
        (Instruction.decode s.fetch)
      = .ok (({ s.noted with pc := after s.pc } : State).setWithFlag x value flag))
    (number : value.toNat = n) (raised : (if flag = true then 1 else 0 : UInt8).toNat = f) :
    Computed.Left ⟨n, some f⟩ x s.registers (s.step advances random).1.registers := by
  rw [step_of_execute executed]
  exact .writeFlag s.registers x number raised

/-- **What comes of an arithmetic instruction is what the numbers say.** -/
theorem step_computed (s : State) (advances : Bool) (random : UInt8) {o : Computed}
    (h : s.fetch.computed? (s.registers.get s.fetch.x).toNat (s.registers.get s.fetch.y).toNat
      = some o) :
    o.Left s.fetch.x s.registers (s.step advances random).1.registers := by
  -- one case for each row of the table. The digits decode to the operation, and what it writes is
  -- what the row says, once the words are read as numbers
  unfold Opcode.computed? at h
  split at h <;> cases h
  case h_1 family =>
    refine step_write ?_ (rfl : s.fetch.nn.toNat = _)
    simp only [Instruction.decode, family]
    rfl
  case h_2 family =>
    refine step_write ?_ (UInt8.toNat_add _ _)
    simp only [Instruction.decode, family]
    rfl
  case h_3 family last =>
    refine step_write ?_ (rfl : (s.registers.get s.fetch.y).toNat = _)
    simp only [Instruction.decode, Instruction.decodeArithmetic, family, last]
    rfl
  case h_4 family last =>
    refine step_write ?_ (UInt8.toNat_or _ _)
    simp only [Instruction.decode, Instruction.decodeArithmetic, family, last]
    rfl
  case h_5 family last =>
    refine step_write ?_ (UInt8.toNat_and _ _)
    simp only [Instruction.decode, Instruction.decodeArithmetic, family, last]
    rfl
  case h_6 family last =>
    refine step_write ?_ (UInt8.toNat_xor _ _)
    simp only [Instruction.decode, Instruction.decodeArithmetic, family, last]
    rfl
  case h_7 family last =>
    refine step_writeFlag ?_ (UInt8.toNat_add _ _) (UInt8.toNat_flag _)
    simp only [Instruction.decode, Instruction.decodeArithmetic, family, last]
    rfl
  case h_8 family last =>
    refine step_writeFlag ?_ (UInt8.toNat_difference _ _) (UInt8.toNat_flag _)
    simp only [Instruction.decode, Instruction.decodeArithmetic, family, last]
    rfl
  case h_9 family last =>
    refine step_writeFlag ?_ (UInt8.toNat_half _) (UInt8.toNat_lowBit _)
    simp only [Instruction.decode, Instruction.decodeArithmetic, family, last]
    rfl
  case h_10 family last =>
    refine step_writeFlag ?_ (UInt8.toNat_difference _ _) (UInt8.toNat_flag _)
    simp only [Instruction.decode, Instruction.decodeArithmetic, family, last]
    rfl
  case h_11 family last =>
    refine step_writeFlag ?_ (UInt8.toNat_double _) (UInt8.toNat_highBit _)
    simp only [Instruction.decode, Instruction.decodeArithmetic, family, last]
    rfl

end State

namespace Interpreter

/-- **Arithmetic, whatever registers it is about.** Each of the arithmetic opcodes has a result in
numbers, of what the two registers held before the step, and it is found in the registers
afterwards. `VF` is the flag if there is one, 0 included; `VX` is the result, unless it is `VF` and
there is a flag; and all other registers have neither changed nor been written. The two shifts do not
look at `VY`. -/
theorem arithmetic_in_numbers (i : Interpreter) (random : UInt8)
    (arithmetic : i.state.fetch.Arithmetic) :
    let op := i.state.fetch
    let before := i.state.registers
    let after := (i.step random).1.state.registers
    let a := (before.get op.x).toNat
    let b := (before.get op.y).toNat
    ∃ o, op.computed? a b = some o
      ∧ (∀ f, o.flag = some f →
          (after.get Registers.VF).toNat = f ∧ after.changed.get Registers.VF = true)
      ∧ (o.flag = none ∨ op.x ≠ Registers.VF → (after.get op.x).toNat = o.result)
      ∧ (∀ r, r ≠ op.x → o.flag = none ∨ r ≠ Registers.VF →
          after.get r = before.get r ∧ after.changed.get r = before.changed.get r)
      ∧ (op.family = 8 → op.n = 6 ∨ op.n = 0xE → ∀ b', op.computed? a b' = some o) := by
  intro op before after a b
  obtain ⟨o, computed⟩ := arithmetic.exists_computed a b
  have left := i.state.step_computed i.advancesIndex random computed
  refine ⟨o, computed, fun f => left.flag, left.result, fun r => left.kept, ?_⟩
  intro eight shift b'
  rw [← computed]
  unfold Opcode.computed?
  rw [eight]
  rcases shift with last | last <;> rw [last] <;> rfl

/-- Adds `VF` to itself. -/
def doubleTheFlag : Source := ⟨[0x6F, 0xC8, 0x8F, 0xF4], none⟩

/-- There is a carry, and nothing else is left of the sum. -/
theorem arithmetic_in_numbers_flagOnly :
    ((new false).run [.load doubleTheFlag, .step 0]).state.fetch.Arithmetic
      ∧ (((new false).run [.load doubleTheFlag, .step 0]).step 0).1.state.registers.get Registers.VF
        = 1 := by
  generalize stated : (new false).run [.load doubleTheFlag, .step 0] = i
  obtain ⟨fetched, held⟩ : i.state.fetch = 0x8FF4 ∧ i.state.registers.get Registers.VF = 200 := by
    rw [← stated]
    decide +kernel
  have arithmetic : i.state.fetch.Arithmetic := by
    rw [fetched]
    exact .inr (.inr ⟨rfl, .inl (by decide)⟩)
  obtain ⟨o, computed, flag, -⟩ := arithmetic_in_numbers i 0 arithmetic
  have operands : Opcode.x 0x8FF4 = Registers.VF ∧ Opcode.y 0x8FF4 = Registers.VF := by decide
  rw [fetched, operands.1, operands.2, held] at computed
  cases computed
  exact ⟨arithmetic, UInt8.toNat_inj.mp (flag 1 rfl).1⟩

end Interpreter

end Chip8
