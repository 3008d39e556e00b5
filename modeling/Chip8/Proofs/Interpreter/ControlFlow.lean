import Chip8.Proofs.Interpreter.CallHistory
import Chip8.Proofs.Interpreter.Written
import Chip8.Proofs.Memory.Wrapping

/-!
# Where a program goes

The program counter moves up to three times within a step, and wraps at 4096 each time: past the
instruction before it is executed, and then past another one, back again, or to wherever the
instruction sends it. `Opcode.next?` says in numbers where it is in the end, from the digits of the
opcode and from what was there before the step, and `Opcode.skips` says which skips are satisfied.

Skips come in pairs (`Opcode.Opposite`): of the two, with the same operands, exactly one is
satisfied. That includes the pair that looks at a key whose number is above 15. There is no such key,
and it counts as one that is up.
-/

set_option autoImplicit false

namespace Chip8

/-! ## The destination of an opcode -/

/-- Whether the key of that number is down. Above 15 there are no keys. -/
def Keypad.holds (k : Keypad) (number : Nat) : Bool :=
  if h : number < 16 then k.keys[number] else false

namespace Opcode

/-- `EX9E` and `EXA1`, with the number `a` in `VX`. -/
def keySkips (op : Opcode) (s : State) (a : Nat) : Bool :=
  match op.nn.toNat with
  | 0x9E => s.keypad.holds a
  | 0xA1 => !s.keypad.holds a
  | _ => false

/-- Whether the opcode is a skip that is satisfied. -/
def skips (op : Opcode) (s : State) : Bool :=
  let a := (s.registers.get op.x).toNat
  let b := (s.registers.get op.y).toNat
  match op.family.val with
  | 0x3 => a = op.nn.toNat
  | 0x4 => a ≠ op.nn.toNat
  | 0x5 => op.n = 0 && a = b
  | 0x9 => op.n = 0 && a ≠ b
  | 0xE => op.keySkips s a
  | _ => false

/-- The address at which the program goes on after the opcode, if the step succeeds. Only `00EE` may
have none. -/
def next? (op : Opcode) (s : State) : Option Nat :=
  let p := s.pc.toNat
  match op.family.val with
  | 0x0 =>
    if op = 0x00EE then s.stack.pending.getLast?.map UInt16.toNat else some ((p + 2) % 4096)
  | 0x1 | 0x2 => some (op.toNat % 4096)
  | 0xB => some ((op.toNat % 4096 + (s.registers.get Registers.V0).toNat) % 4096)
  | 0xF =>
    some (if op.nn.toNat = 0x0A ∧ s.keypad.anyDown = false then p else (p + 2) % 4096)
  | _ => some (if op.skips s then (p + 4) % 4096 else (p + 2) % 4096)

/-- `3XNN` and `4XNN`, `5XY0` and `9XY0`, `EX9E` and `EXA1`, with the same operands. -/
def Opposite (op op' : Opcode) : Prop :=
  op.x = op'.x ∧
    (op.family = 0x3 ∧ op'.family = 0x4 ∧ op.nn = op'.nn
      ∨ op.family = 0x5 ∧ op'.family = 0x9 ∧ op.n = 0 ∧ op'.n = 0 ∧ op.y = op'.y
      ∨ op.family = 0xE ∧ op'.family = 0xE ∧ op.nn = 0x9E ∧ op'.nn = 0xA1)

end Opcode

/-! ## The destination of an instruction -/

theorem Keypad.isDown_eq_holds (k : Keypad) (key : UInt8) : k.isDown key = k.holds key.toNat := by
  unfold isDown holds
  by_cases h : key.toNat < 16 <;> simp [h]

theorem CallStack.map_pop? (c : CallStack) : c.pop?.map Prod.fst = c.pending.getLast? := by
  cases popped : c.pop? with
  | none =>
    have empty : c.pending = [] :=
      List.eq_nil_of_length_eq_zero (c.length_pending.trans (c.pop?_eq_none_iff.mp popped))
    rw [empty]
    rfl
  | some top =>
    rw [pending_pop? popped, List.getLast?_concat]
    rfl

namespace State

theorem toNat_after (pc : UInt16) : (after pc).toNat = (pc.toNat + 2) % 4096 := by
  show ((pc.toNat + 2) % 65536) % 4096 = _
  omega

theorem toNat_skip (pc : UInt16) (c : Bool) :
    (if c then after (after pc) else after pc).toNat
      = if c then (pc.toNat + 4) % 4096 else (pc.toNat + 2) % 4096 := by
  cases c with
  | false => exact toNat_after pc
  | true =>
    show (after (after pc)).toNat = (pc.toNat + 4) % 4096
    rw [toNat_after, toNat_after]
    omega

theorem toNat_offset (target : Address) (offset : UInt8) :
    ((target.toWord + offset.toUInt16) % 4096).toNat = (target.val + offset.toNat) % 4096 := by
  rw [UInt16.toNat_mod, UInt16.toNat_add, Address.toNat_toWord, UInt8.toNat_toUInt16]
  exact Nat.mod_mod_of_dvd _ (by decide)

end State

namespace Instruction

open State (after)

def skips (s : State) : Instruction → Bool
  | skipEqualConstant x nn => s.registers.get x == nn
  | skipNotEqualConstant x nn => s.registers.get x != nn
  | skipEqualRegister x y => s.registers.get x == s.registers.get y
  | skipNotEqualRegister x y => s.registers.get x != s.registers.get y
  | skipIfPressed x => s.keypad.isDown (s.registers.get x)
  | skipIfNotPressed x => !s.keypad.isDown (s.registers.get x)
  | _ => false

def next? (s : State) : Instruction → Option UInt16
  | ret => s.stack.pop?.map Prod.fst
  | jump target | call target => some target.toWord
  | jumpWithOffset target =>
    some ((target.toWord + (s.registers.get Registers.V0).toUInt16) % 4096)
  | waitForKey _ => some (if s.keypad.anyDown then after s.pc else s.pc)
  | ins => some (if ins.skips s then after (after s.pc) else after s.pc)

variable (op : Opcode) (s : State)

theorem decodeKeySkip_skips :
    (decodeKeySkip op).skips s = op.keySkips s (s.registers.get op.x).toNat := by
  unfold decodeKeySkip Opcode.keySkips
  split <;> simp_all [skips, Keypad.isDown_eq_holds]

/-- The digits that name a skip say when it is satisfied. -/
theorem decode_skips : (decode op).skips s = op.skips s := by
  have arithmetic : (decodeArithmetic op).skips s = false := by
    unfold decodeArithmetic
    split <;> rfl
  have keySkip := decodeKeySkip_skips op s
  have transfer : (decodeTransfer op).skips s = false := by
    unfold decodeTransfer
    split <;> rfl
  have equal (a b : UInt8) : (a == b) = decide (a.toNat = b.toNat) := by
    rw [Bool.eq_iff_iff, beq_iff_eq, decide_eq_true_eq, UInt8.toNat_inj]
  have unequal (a b : UInt8) : (a != b) = decide (a.toNat ≠ b.toNat) := by
    rw [bne, equal, decide_not]
  unfold decode Opcode.skips
  -- the first digit picks the branch of the table; where a second one has to be looked at, so does
  -- the decoder, and the two look at the same one
  generalize op.family = family
  match family with
  | 0 =>
    show (if _ then _ else if _ then _ else _ : Instruction).skips s = false
    split
    · rfl
    · split <;> rfl
  | 3 => exact equal _ _
  | 4 => exact unequal _ _
  | 5 =>
    show (if op.n = 0 then _ else _ : Instruction).skips s = (decide (op.n = 0) && _)
    by_cases last : op.n = 0
    · rw [if_pos last, last]
      exact equal _ _
    · rw [if_neg last, decide_eq_false last, Bool.false_and]
      rfl
  | 9 =>
    show (if op.n = 0 then _ else _ : Instruction).skips s = (decide (op.n = 0) && _)
    by_cases last : op.n = 0
    · rw [if_pos last, last]
      exact unequal _ _
    · rw [if_neg last, decide_eq_false last, Bool.false_and]
      rfl
  | 8 => exact arithmetic
  | 0xE => exact keySkip
  | 0xF => exact transfer
  | 1 | 2 | 6 | 7 | 0xA | 0xB | 0xC | 0xD => rfl
  | ⟨k + 16, hk⟩ => omega

theorem decodeArithmetic_next? :
    (decodeArithmetic op).next? s
      = some (if (decodeArithmetic op).skips s then after (after s.pc) else after s.pc) := by
  unfold decodeArithmetic
  split <;> rfl

theorem decodeKeySkip_next? :
    (decodeKeySkip op).next? s
      = some (if (decodeKeySkip op).skips s then after (after s.pc) else after s.pc) := by
  unfold decodeKeySkip
  split <;> rfl

theorem decodeTransfer_next? :
    (decodeTransfer op).next? s
      = some (if op.nn.toNat = 0x0A ∧ s.keypad.anyDown = false then s.pc else after s.pc) := by
  unfold decodeTransfer
  split <;> simp_all [next?, skips]
  cases s.keypad.anyDown <;> rfl

/-- The digits say where the instruction that they name sends the program. -/
theorem decode_next? : ((decode op).next? s).map UInt16.toNat = op.next? s := by
  have skips := decode_skips op s
  have arithmetic := decodeArithmetic_next? op s
  have keySkip := decodeKeySkip_next? op s
  have transfer := decodeTransfer_next? op s
  unfold Opcode.next?
  rw [← skips]
  unfold decode
  generalize op.family = family
  match family with
  | 0 =>
    show Option.map _ ((if op = 0x00E0 then clearScreen
        else if op = 0x00EE then ret else machineCall op.nnn).next? s)
      = if op = 0x00EE then _ else _
    -- a return is the one instruction whose way on is not in its digits, and there may be none
    by_cases clears : op = 0x00E0
    · rw [if_pos clears, if_neg (by rw [clears]; decide)]
      exact congrArg some (State.toNat_after _)
    · rw [if_neg clears]
      by_cases returns : op = 0x00EE
      · rw [if_pos returns, if_pos returns, ← CallStack.map_pop?]
        rfl
      · rw [if_neg returns, if_neg returns]
        exact congrArg some (State.toNat_after _)
  | 1 | 2 => exact congrArg some (Address.toNat_toWord _)
  | 3 | 4 => exact congrArg some (State.toNat_skip _ _)
  | 5 | 9 =>
    show Option.map _ ((if op.n = 0 then _ else _ : Instruction).next? s) = _
    split <;> exact congrArg some (State.toNat_skip _ _)
  | 8 =>
    show Option.map _ ((decodeArithmetic op).next? s)
      = some (if (decodeArithmetic op).skips s then _ else _)
    rw [arithmetic]
    exact congrArg some (State.toNat_skip _ _)
  | 0xB => exact congrArg some (State.toNat_offset _ _)
  | 0xE =>
    show Option.map _ ((decodeKeySkip op).next? s)
      = some (if (decodeKeySkip op).skips s then _ else _)
    rw [keySkip]
    exact congrArg some (State.toNat_skip _ _)
  -- `FX0A` is in this family: it stays where it is as long as no key is down
  | 0xF =>
    show Option.map _ ((decodeTransfer op).next? s) = _
    rw [transfer, Option.map_some, apply_ite UInt16.toNat, State.toNat_after]
    rfl
  | 6 | 7 | 0xA | 0xC | 0xD => exact congrArg some (State.toNat_after _)
  | ⟨k + 16, hk⟩ => omega

end Instruction

/-! ## One step -/

namespace State

variable {s t : State} {advances : Bool} {random : UInt8}

theorem skipIf_pc (s : State) (c : Bool) :
    (s.skipIf c).pc = if c then after s.pc else s.pc := by
  cases c <;> rfl

theorem advanceIndex_pc (s : State) (advances : Bool) (x : Register) :
    (s.advanceIndex advances x).pc = s.pc := by
  cases advances <;> rfl

theorem execute_next? {ins : Instruction}
    (hex : ({ s.noted with pc := after s.pc } : State).execute advances random s.pc ins = .ok t) :
    ins.next? s = some t.pc := by
  cases ins with
  | ret =>
    simp only [execute] at hex
    split at hex
    · cases hex
    · next popped =>
      cases hex
      exact congrArg (Option.map Prod.fst) popped
  | call =>
    simp only [execute] at hex
    split at hex <;> cases hex
    rfl
  | waitForKey =>
    -- the one instruction that winds the program counter back
    have down := s.keypad.firstDown_isSome
    simp only [execute] at hex
    split at hex
    · next key pressed =>
      cases hex
      rw [show s.keypad.firstDown = some key from pressed] at down
      rw [Instruction.next?, ← down]
      rfl
    · next idle =>
      cases hex
      rw [show s.keypad.firstDown = none from idle] at down
      rw [Instruction.next?, ← down]
      rfl
  | skipEqualConstant | skipNotEqualConstant | skipEqualRegister | skipNotEqualRegister
  | skipIfPressed | skipIfNotPressed =>
    cases hex
    rw [skipIf_pc]
    rfl
  | storeRegisters | loadRegisters =>
    cases hex
    rw [advanceIndex_pc]
    rfl
  | _ =>
    cases hex
    rfl

/-- **A step that succeeds leaves the program counter where the digits say.** -/
theorem step_next? (succeeds : (s.step advances random).2.isOk = true) :
    s.fetch.next? s = some (s.step advances random).1.pc.toNat := by
  rw [← Instruction.decode_next?]
  unfold step at succeeds ⊢
  split at succeeds
  · cases succeeds
  · next t hex =>
    rw [execute_next? hex]
    rfl

end State

/-! ## Skips and their opposites -/

namespace Opcode

/-- The families of the skips. Some of their opcodes mean nothing, and skip nothing. -/
def SkipFamily (op : Opcode) : Prop :=
  op.family = 3 ∨ op.family = 4 ∨ op.family = 5 ∨ op.family = 9 ∨ op.family = 0xE

variable {op op' : Opcode}

theorem SkipFamily.next? (h : op.SkipFamily) (s : State) :
    op.next? s
      = some (if op.skips s then (s.pc.toNat + 4) % 4096 else (s.pc.toNat + 2) % 4096) := by
  unfold Opcode.next?
  rcases h with h | h | h | h | h <;> rw [h] <;> rfl

theorem SkipFamily.ne_call (h : op.SkipFamily) : op.family ≠ 2 := by
  rcases h with h | h | h | h | h <;> rw [h] <;> decide

theorem SkipFamily.ne_ret (h : op.SkipFamily) : op ≠ 0x00EE := by
  rintro rfl
  have zero : Opcode.family 0x00EE = 0 := rfl
  simp [SkipFamily, zero] at h

/-- Opposites are skips, both of them. -/
theorem Opposite.skipFamily (h : op.Opposite op') : op.SkipFamily ∧ op'.SkipFamily := by
  obtain ⟨-, ⟨h, h', -⟩ | ⟨h, h', -⟩ | ⟨h, h', -⟩⟩ := h <;> simp [SkipFamily, h, h']

/-- **Of two opposites, exactly one is satisfied.** -/
theorem Opposite.skips (h : op.Opposite op') {s t : State}
    (registers : t.registers.values = s.registers.values) (keys : t.keypad.keys = s.keypad.keys) :
    op'.skips t = !op.skips s := by
  have held (r : Register) : t.registers.get r = s.registers.get r :=
    congrArg (fun v => v.get r) registers
  have down (a : Nat) : t.keypad.holds a = s.keypad.holds a := by
    unfold Keypad.holds
    rw [keys]
  unfold Opcode.skips keySkips
  obtain ⟨x, ⟨f, f', nn⟩ | ⟨f, f', n, n', y⟩ | ⟨f, f', nn, nn'⟩⟩ := h
  · rw [f, f', held, ← x, ← nn]
    exact decide_not
  · rw [f, f', n, n', held, held, ← x, ← y]
    exact decide_not
  · rw [f, f', nn, nn', held, ← x]
    exact congrArg Bool.not (down _)

end Opcode

/-- Nothing keeps a skip from succeeding. -/
theorem State.step_skip (s : State) (advances : Bool) (random : UInt8) (h : s.fetch.SkipFamily) :
    (s.step advances random).1.pc.toNat
      = if s.fetch.skips s then (s.pc.toNat + 4) % 4096 else (s.pc.toNat + 2) % 4096 := by
  have free : s.stuck? = none := by
    rw [stuck?_eq, if_neg h.ne_call, if_neg h.ne_ret]
  cases result : (s.step advances random).2 with
  | error fault =>
    rw [(step_error_iff advances random).mp result] at free
    cases free
  | ok done =>
    have next : s.fetch.next? s = some (s.step advances random).1.pc.toNat :=
      step_next? (by rw [result]; rfl)
    exact Option.some.inj (next.symm.trans (h.next? s))

namespace Interpreter

/-- **Where a program goes on.** The opcode is the word at the program counter; its second byte may
lie at the beginning of memory. After a step that succeeds, the program counter is where the digits
of the opcode say, in numbers, from what was there before the step: at the address of a jump, a call
or a return, at the instruction itself while it waits for a key, two instructions on after a skip
that is satisfied, and otherwise at the next instruction, after opcodes that mean nothing, too. Where
another machine with the same registers and keys stands on the opposite skip, one of the two skips
and the other does not. -/
theorem next_address (i : Interpreter) (random : UInt8)
    (succeeds : (i.step random).2.isOk = true) :
    let op := i.state.fetch
    let p := i.state.pc.toNat
    let next := (i.step random).1.state.pc.toNat
    op.toNat = 256 * (i.state.memory.byteAt p).toNat + (i.state.memory.byteAt (p + 1)).toNat
      ∧ op.next? i.state = some next
      ∧ ∀ (j : Interpreter) (random' : UInt8), op.Opposite j.state.fetch →
          j.state.registers.values = i.state.registers.values →
          j.state.keypad.keys = i.state.keypad.keys →
          let q := j.state.pc.toNat
          let next' := (j.step random').1.state.pc.toNat
          (op.skips i.state = true → next = (p + 4) % 4096 ∧ next' = (q + 2) % 4096)
            ∧ (op.skips i.state = false → next = (p + 2) % 4096 ∧ next' = (q + 4) % 4096) := by
  intro op p next
  refine ⟨i.state.memory.toNat_word i.state.pc, State.step_next? succeeds, ?_⟩
  intro j random' opposite registers keys q next'
  obtain ⟨skip, skip'⟩ := opposite.skipFamily
  have first := i.state.step_skip i.advancesIndex random skip
  have second := j.state.step_skip j.advancesIndex random' skip'
  rw [opposite.skips registers keys] at second
  constructor
  · intro satisfied
    rw [satisfied] at first second
    exact ⟨first, second⟩
  · intro unsatisfied
    rw [unsatisfied] at first second
    exact ⟨first, second⟩

/-- Sets `V1` to a number that no key has, and looks at the key of that number. -/
def lookForNoKey (last : UInt8) : Source := ⟨[0x61, 0x1F, 0xE1, last], none⟩

/-- A key that does not exist is up: `EX9E` goes on, and `EXA1` skips. -/
theorem next_address_noSuchKey :
    (((new false).run [.load (lookForNoKey 0x9E), .step 0]).step 0).1.state.pc.toNat = 516
      ∧ (((new false).run [.load (lookForNoKey 0xA1), .step 0]).step 0).1.state.pc.toNat = 518 := by
  generalize stated : (new false).run [.load (lookForNoKey 0x9E), .step 0] = i
  generalize stated' : (new false).run [.load (lookForNoKey 0xA1), .step 0] = j
  obtain ⟨fetched, place, unsatisfied, succeeds⟩ : i.state.fetch = 0xE19E
      ∧ i.state.pc.toNat = 514 ∧ i.state.fetch.skips i.state = false
      ∧ (i.step 0).2.isOk = true := by
    rw [← stated]
    decide +kernel
  obtain ⟨fetched', place', registers, keys⟩ : j.state.fetch = 0xE1A1
      ∧ j.state.pc.toNat = 514 ∧ j.state.registers.values = i.state.registers.values
      ∧ j.state.keypad.keys = i.state.keypad.keys := by
    rw [← stated, ← stated']
    decide +kernel
  obtain ⟨-, -, opposites⟩ := next_address i 0 succeeds
  have opposite : Opcode.Opposite i.state.fetch j.state.fetch := by
    rw [fetched, fetched']
    exact ⟨rfl, .inr (.inr ⟨rfl, rfl, rfl, rfl⟩)⟩
  have both := (opposites j 0 opposite registers keys).2 unsatisfied
  rw [place, place'] at both
  exact both

end Interpreter

end Chip8
