import Chip8.Proofs.Instruction.Spelling
import Chip8.Proofs.Interpreter.Independence

/-!
# Two treatments of the index register

Whether `FX55` and `FX65` move the index register is set when an interpreter is made. This file runs
two interpreters side by side that differ in it, and says how far apart they get. They are the same
up to the first of these two opcodes. From there one of them has its index register ahead by a known
number (`State.ahead`), which sums carry along and wrap as they wrap the register, until both
registers are set to the same address again.

How far ahead is decided instruction by instruction (`Instruction.lead`). Nothing is said of an
instruction that reaches through the register while one is ahead: the two then read and write
different places, and need have nothing in common afterwards.
-/

set_option autoImplicit false

namespace Chip8

/-! ## Opcodes and the index register -/

namespace Opcode

/-- `FX55` and `FX65`. -/
def MovesBlock (op : Opcode) : Prop := op.Transfer 0x55 ∨ op.Transfer 0x65

/-- `DXYN`, `FX33`, `FX55` and `FX65`: these reach memory through the index register. -/
def UsesIndex (op : Opcode) : Prop := op.family = 0xD ∨ op.Transfer 0x33 ∨ op.MovesBlock

/-- `ANNN` and `FX29`: these set the index register, whatever was in it. -/
def SetsIndex (op : Opcode) : Prop := op.family = 0xA ∨ op.Transfer 0x29

instance (op : Opcode) : Decidable op.MovesBlock := inferInstanceAs (Decidable (_ ∨ _))

instance (op : Opcode) : Decidable op.UsesIndex := inferInstanceAs (Decidable (_ ∨ _))

instance (op : Opcode) : Decidable op.SetsIndex := inferInstanceAs (Decidable (_ ∨ _))

end Opcode

namespace Instruction

def usesIndex : Instruction → Bool
  | draw .. | storeDecimal _ | storeRegisters _ | loadRegisters _ => true
  | _ => false

/-- How far an index register is ahead after an instruction, if it was ahead by `d` before, and is
the one that moves with blocks of registers. -/
def lead (d : UInt16) : Instruction → UInt16
  | setIndex _ | pointAtGlyph _ => 0
  | storeRegisters x | loadRegisters x => d + UInt16.ofNat (x.val + 1)
  | _ => d

end Instruction

namespace Opcode

open Instruction

variable {op : Opcode} (d : UInt16)

theorem decode_usesIndex (idle : ¬ op.UsesIndex) : (decode op).usesIndex = false := by
  have spelled := decode_spelled op
  generalize decode op = ins at spelled ⊢
  cases ins with
  | draw => exact absurd (.inl spelled.1) idle
  | storeDecimal => exact absurd (.inr (.inl spelled.1)) idle
  | storeRegisters => exact absurd (.inr (.inr (.inl spelled.1))) idle
  | loadRegisters => exact absurd (.inr (.inr (.inr spelled.1))) idle
  | _ => rfl

theorem lead_of_movesBlock (moves : op.MovesBlock) :
    (decode op).lead d = d + UInt16.ofNat (op.x.val + 1) := by
  rcases moves with stores | loads
  · have decoded : decode op = .storeRegisters op.x := decode_of_spelled ⟨stores, rfl⟩
    rw [decoded, lead]
  · have decoded : decode op = .loadRegisters op.x := decode_of_spelled ⟨loads, rfl⟩
    rw [decoded, lead]

theorem lead_of_setsIndex (sets : op.SetsIndex) : (decode op).lead d = 0 := by
  rcases sets with address | glyph
  · have decoded : decode op = .setIndex op.nnn := decode_of_spelled ⟨address, rfl⟩
    rw [decoded, lead]
  · have decoded : decode op = .pointAtGlyph op.x := decode_of_spelled ⟨glyph, rfl⟩
    rw [decoded, lead]

/-- Other opcodes leave the lead as it is. -/
theorem lead_of_others (unmoved : ¬ op.MovesBlock) (sets : ¬ op.SetsIndex) :
    (decode op).lead d = d := by
  have spelled := decode_spelled op
  generalize decode op = ins at spelled ⊢
  cases ins with
  | storeRegisters => exact absurd (.inl spelled.1) unmoved
  | loadRegisters => exact absurd (.inr spelled.1) unmoved
  | setIndex => exact absurd (.inl spelled.1) sets
  | pointAtGlyph => exact absurd (.inr spelled.1) sets
  | _ => rfl

/-- How far a register is ahead after a run that moves no block. -/
def leadAfter (d : UInt16) (opcodes : List Opcode) : UInt16 :=
  if ∃ op ∈ opcodes, op.SetsIndex then 0 else d

theorem leadAfter_cons (unmoved : ¬ op.MovesBlock) (opcodes : List Opcode) :
    leadAfter d (op :: opcodes) = leadAfter ((decode op).lead d) opcodes := by
  by_cases sets : op.SetsIndex
  · rw [lead_of_setsIndex d sets]
    simp [leadAfter, sets]
  · rw [lead_of_others d unmoved sets]
    simp [leadAfter, sets]

/-- A register that is not ahead gets ahead by moving blocks only. -/
theorem lead_zero (unmoved : ¬ op.MovesBlock) : (decode op).lead 0 = 0 := by
  by_cases sets : op.SetsIndex
  · exact lead_of_setsIndex 0 sets
  · exact lead_of_others 0 unmoved sets

end Opcode

/-! ## One step -/

namespace State

/-- The state with its index register moved on by `d`. -/
def ahead (s : State) (d : UInt16) : State := { s with index := s.index + d }

variable {s : State} {d : UInt16}

@[simp] theorem ahead_zero (s : State) : s.ahead 0 = s := by
  simp [ahead]

/-- Where a register is ahead, it may be moved before or after. -/
theorem ahead_add (s : State) (d k : UInt16) :
    { s.ahead d with index := (s.ahead d).index + k }
      = ({ s with index := s.index + k } : State).ahead d := by
  have sums : s.index + d + k = s.index + k + d := by
    rw [UInt16.add_assoc, UInt16.add_comm d, UInt16.add_assoc]
  simp only [ahead, sums]

/-- Two interpreters with the same state execute the same instruction: the one that moves the index
register with blocks of registers is ahead by one such move, or not at all. -/
theorem execute_advances (random : UInt8) (pc : UInt16) (s : State) (ins : Instruction) :
    s.execute true random pc ins
      = (s.execute false random pc ins).map fun t => t.ahead (ins.lead 0) := by
  cases ins with
  | storeRegisters x | loadRegisters x =>
    simp only [execute, Instruction.lead, UInt16.zero_add]
    rfl
  | _ =>
    -- the other instructions do not ask how the register is treated
    simp only [Instruction.lead, ahead_zero]
    exact (congrFun Except.map_id _).symm

/-- An instruction that does not reach through the index register makes the same of a state and of
one that is ahead. -/
theorem execute_ahead {ins : Instruction} (idle : ins.usesIndex = false) (random : UInt8)
    (pc : UInt16) (s : State) (d : UInt16) :
    (s.ahead d).execute true random pc ins
      = (s.execute false random pc ins).map fun t => t.ahead (ins.lead d) := by
  have skip (c : Bool) : (s.ahead d).skipIf c = (s.skipIf c).ahead d := by cases c <;> rfl
  have hstack : (s.ahead d).stack = s.stack := rfl
  have hpc : (s.ahead d).pc = s.pc := rfl
  have hkeypad : (s.ahead d).keypad = s.keypad := rfl
  cases ins with
  | draw | storeDecimal | storeRegisters | loadRegisters => cases idle
  | ret =>
    simp only [execute, hstack]
    cases s.stack.pop? <;> rfl
  | call target =>
    simp only [execute, hstack, hpc]
    cases s.stack.push? s.pc <;> rfl
  | waitForKey x =>
    simp only [execute, hkeypad]
    cases s.keypad.firstDown <;> rfl
  | skipEqualConstant | skipNotEqualConstant | skipEqualRegister | skipNotEqualRegister
  | skipIfPressed | skipIfNotPressed => exact congrArg Except.ok (skip _)
  | setIndex | pointAtGlyph =>
    simp only [execute, Instruction.lead, ahead_zero, Except.map]
    rfl
  | addToIndex x => exact congrArg Except.ok (s.ahead_add d _)
  | _ => rfl

/-- An instruction that fails is none of those that change the lead. -/
theorem lead_of_fault {advances : Bool} {random : UInt8} {pc : UInt16} {ins : Instruction}
    {fault : StackFault} (failed : s.execute advances random pc ins = .error fault) (d : UInt16) :
    ins.lead d = d := by
  cases ins with
  | setIndex | pointAtGlyph | storeRegisters | loadRegisters => cases failed
  | _ => rfl

/-- **One step of each.** It comes to the same, and the lead is what the instruction makes of it. -/
theorem step_ahead (agree : d = 0 ∨ ¬ s.fetch.UsesIndex) (random : UInt8) :
    ((s.ahead d).step true random).1
        = (s.step false random).1.ahead ((Instruction.decode s.fetch).lead d)
      ∧ ((s.ahead d).step true random).2 = (s.step false random).2 := by
  have executed : ({ (s.ahead d).noted with pc := after s.pc } : State).execute true random s.pc
        (Instruction.decode s.fetch)
      = (({ s.noted with pc := after s.pc } : State).execute false random s.pc
        (Instruction.decode s.fetch)).map
          fun t => t.ahead ((Instruction.decode s.fetch).lead d) := by
    rcases agree with rfl | idle
    · rw [ahead_zero]
      exact execute_advances random s.pc _ _
    · exact execute_ahead (Opcode.decode_usesIndex idle) random s.pc
        { s.noted with pc := after s.pc } d
  have fetch : (s.ahead d).fetch = s.fetch := rfl
  have pc : (s.ahead d).pc = s.pc := rfl
  unfold step
  rw [fetch, pc, executed]
  cases done : ({ s.noted with pc := after s.pc } : State).execute false random s.pc
    (Instruction.decode s.fetch) with
  | error fault =>
    -- nothing was executed, so the lead is still the one before the step
    rw [lead_of_fault done]
    exact ⟨rfl, rfl⟩
  | ok t => exact ⟨rfl, rfl⟩

end State

/-! ## Runs -/

namespace Interpreter

/-- The answer with its index register moved on by `d`, if one is shown in it. -/
def Answer.ahead (d : UInt16) : Answer → Answer
  | .shown view => .shown { view with index := view.index + d }
  | answer => answer

/-- The answer with nothing in the place of the index register. -/
def Answer.withoutIndex : Answer → Answer
  | .shown view => .shown { view with index := 0 }
  | answer => answer

@[simp] theorem Answer.ahead_zero (answer : Answer) : answer.ahead 0 = answer := by
  cases answer <;> simp [Answer.ahead]

@[simp] theorem Answer.withoutIndex_ahead (answer : Answer) (d : UInt16) :
    (answer.ahead d).withoutIndex = answer.withoutIndex := by
  cases answer <;> rfl

/-- The same but for the index register: `i` moves it with blocks of registers, `j` does not, and
the one of `i` is ahead by `d`. -/
structure Leads (d : UInt16) (i j : Interpreter) : Prop where
  advances : i.advancesIndex = true
  stays : j.advancesIndex = false
  state : i.state = j.state.ahead d

variable {d : UInt16} {i j : Interpreter}

theorem Leads.step (h : Leads d i j) (agree : d = 0 ∨ ¬ j.state.fetch.UsesIndex)
    (random : UInt8) :
    Leads ((Instruction.decode j.state.fetch).lead d) (i.step random).1 (j.step random).1
      ∧ (i.step random).2 = (j.step random).2 := by
  obtain ⟨s, _⟩ := i
  obtain ⟨t, _⟩ := j
  obtain ⟨rfl, rfl, rfl⟩ := h
  obtain ⟨state, result⟩ := State.step_ahead agree random
  exact ⟨⟨rfl, rfl, state⟩, result⟩

/-- Between two steps the lead stays what it is, unless a program is loaded. -/
theorem Leads.perform (h : Leads d i j) {op : Operation} (still : op.isStep = false)
    (kept : op.replaces = false) :
    Leads d (i.perform op) (j.perform op) ∧ i.answer op = (j.answer op).ahead d := by
  obtain ⟨s, _⟩ := i
  obtain ⟨t, _⟩ := j
  obtain ⟨rfl, rfl, rfl⟩ := h
  cases op with
  | step => cases still
  | load source =>
    rw [perform_failed_load _ kept, perform_failed_load _ kept]
    exact ⟨⟨rfl, rfl, rfl⟩, congrArg Answer.loaded (load_result_congr _ _ source)⟩
  | tick | key | expire | clearKeys | snapshot => exact ⟨⟨rfl, rfl, rfl⟩, rfl⟩

/-- A program that is loaded finds two registers that are the same. -/
theorem Leads.load (h : Leads d i j) {source : Source}
    (loads : (Operation.load source).replaces = true) :
    Leads 0 (i.perform (.load source)) (j.perform (.load source)) := by
  have succeeds : (State.load source).isOk = true := loads
  show Leads 0 (i.load source).1 (j.load source).1
  unfold Interpreter.load
  split
  · exact ⟨h.advances, h.stays, (State.ahead_zero _).symm⟩
  · next hload => rw [hload] at succeeds; cases succeeds

/-- **Up to the first block** there is no difference, and nothing that comes to something else. -/
theorem run_without_block {ops : List Operation} (h : Leads 0 i j)
    (unmoved : ∀ opcode ∈ j.fetches ops, ¬ opcode.MovesBlock) :
    Leads 0 (i.run ops) (j.run ops) ∧ i.answers ops = j.answers ops := by
  induction ops generalizing i j with
  | nil => exact ⟨h, rfl⟩
  | cons op ops ih =>
    cases still : op.isStep with
    | false =>
      rw [fetches, stepHistory_cons_of_not_step _ j still] at unmoved
      cases replaced : op.replaces with
      | false =>
        obtain ⟨performed, answered⟩ := h.perform still replaced
        rw [Answer.ahead_zero] at answered
        obtain ⟨rest, answers⟩ := ih performed unmoved
        exact ⟨rest, List.cons_eq_cons.mpr ⟨answered, answers⟩⟩
      | true =>
        -- a load resets both, so there is no lead after it either
        obtain ⟨source, rfl⟩ := Operation.exists_of_replaces replaced
        obtain ⟨rest, answers⟩ := ih (h.load replaced) unmoved
        have answered := congrArg Answer.loaded (load_result_congr i j source)
        exact ⟨rest, List.cons_eq_cons.mpr ⟨answered, answers⟩⟩
    | true =>
      obtain ⟨random, rfl⟩ := Operation.exists_of_isStep still
      obtain ⟨now, later⟩ := List.forall_mem_cons.mp unmoved
      obtain ⟨stepped, result⟩ := h.step (.inl rfl) random
      rw [Opcode.lead_zero now] at stepped
      obtain ⟨rest, answers⟩ := ih stepped later
      exact ⟨rest, List.cons_eq_cons.mpr ⟨congrArg Answer.stepped result, answers⟩⟩

/-- **As long as the register is not used** the lead stays, until the register is set. -/
theorem run_ahead {ops : List Operation} (h : Leads d i j)
    (kept : ∀ op ∈ ops, op.replaces = false)
    (idle : ∀ opcode ∈ j.fetches ops, ¬ opcode.UsesIndex) :
    Leads (Opcode.leadAfter d (j.fetches ops)) (i.run ops) (j.run ops)
      ∧ (i.answers ops).map Answer.withoutIndex = (j.answers ops).map Answer.withoutIndex := by
  induction ops generalizing d i j with
  | nil => exact ⟨h, rfl⟩
  | cons op ops ih =>
    obtain ⟨keptNow, keptLater⟩ := List.forall_mem_cons.mp kept
    cases still : op.isStep with
    | false =>
      rw [fetches, stepHistory_cons_of_not_step _ j still] at idle ⊢
      obtain ⟨performed, answered⟩ := h.perform still keptNow
      obtain ⟨rest, answers⟩ := ih performed keptLater idle
      refine ⟨rest, List.cons_eq_cons.mpr ⟨?_, answers⟩⟩
      rw [answered, Answer.withoutIndex_ahead]
    | true =>
      obtain ⟨random, rfl⟩ := Operation.exists_of_isStep still
      obtain ⟨now, later⟩ := List.forall_mem_cons.mp idle
      obtain ⟨stepped, result⟩ := h.step (.inr now) random
      obtain ⟨rest, answers⟩ := ih stepped keptLater later
      -- the instruction may set or add to the register; it is neither a block nor one that follows
      -- it
      have unmoved : ¬ j.state.fetch.MovesBlock := fun moves => now (.inr (.inr moves))
      refine ⟨?_, List.cons_eq_cons.mpr ⟨?_, answers⟩⟩
      · show Leads (Opcode.leadAfter d (j.state.fetch :: (j.step random).1.fetches ops)) _ _
        rw [Opcode.leadAfter_cons d unmoved]
        exact rest
      · exact congrArg (fun r => (Answer.stepped r).withoutIndex) result

theorem Leads.toNat_index (h : Leads d i j) :
    i.state.index.toNat = (j.state.index.toNat + d.toNat) % 65536 := by
  rw [h.state, State.ahead, UInt16.toNat_add]

theorem Leads.rest (h : Leads d i j) :
    i.state = { j.state with index := i.state.index } := by
  rw [h.state]
  rfl

/-- **The treatment of the index register shows in the index register only.** Run two interpreters
that differ in it from the start: with the same programs, random bytes, ticks, keys and snapshots.
Up to the first `FX55` or `FX65` their states are the same, and so is all that is learned from them.
The step that executes this opcode comes to the same in both, and leaves states that are the same
but for the index register; that of one is `X + 1` more than that of the other, wrapped at 65536.
From there on, as long as no program is loaded and no `DXYN`, `FX33`, `FX55` or `FX65` executed,
nothing but the index register tells the two apart, in their states or in what is learned from
them: it stays `X + 1` ahead, whatever is added to it, and from the first `ANNN` or `FX29` the
states are the same again. -/
theorem treatment_shows_in_index_only (before : List Operation)
    (unmoved : ∀ opcode ∈ (new false).fetches before, ¬ opcode.MovesBlock) :
    let i := (new true).run before
    let j := (new false).run before
    let x := j.state.fetch.x.val
    (i.state = j.state ∧ (new true).answers before = (new false).answers before)
      ∧ ∀ random, j.state.fetch.MovesBlock →
        let i' := (i.step random).1
        let j' := (j.step random).1
        (i.step random).2 = (j.step random).2
          ∧ i'.state = { j'.state with index := i'.state.index }
          ∧ i'.state.index.toNat = (j'.state.index.toNat + x + 1) % 65536
          ∧ ∀ later, (∀ op ∈ later, op.replaces = false) →
            (∀ opcode ∈ j'.fetches later, ¬ opcode.UsesIndex) →
              let s := (i'.run later).state
              let t := (j'.run later).state
              s = { t with index := s.index }
                ∧ (i'.answers later).map Answer.withoutIndex
                  = (j'.answers later).map Answer.withoutIndex
                ∧ ((∀ opcode ∈ j'.fetches later, ¬ opcode.SetsIndex) →
                  s.index.toNat = (t.index.toNat + x + 1) % 65536)
                ∧ ((∃ opcode ∈ j'.fetches later, opcode.SetsIndex) → s = t) := by
  intro i j x
  have start : Leads 0 (new true) (new false) := ⟨rfl, rfl, (State.ahead_zero _).symm⟩
  obtain ⟨same, answers⟩ := run_without_block start unmoved
  refine ⟨⟨same.state.trans (State.ahead_zero _), answers⟩, fun random moves => ?_⟩
  intro i' j'
  have size : (UInt16.ofNat (x + 1)).toNat = x + 1 := by
    have := j.state.fetch.x.isLt
    rw [UInt16.toNat_ofNat']
    omega
  -- this one step moves the register in one of the two only
  obtain ⟨stepped, result⟩ := same.step (.inl rfl) random
  rw [Opcode.lead_of_movesBlock 0 moves, UInt16.zero_add] at stepped
  have ahead := stepped.toNat_index
  rw [size] at ahead
  refine ⟨result, stepped.rest, ahead, fun later kept idle => ?_⟩
  intro s t
  obtain ⟨ended, learned⟩ := run_ahead stepped kept idle
  -- the lead after a run is the one before it, or none once the register has been set
  refine ⟨ended.rest, learned, fun unset => ?_, fun set => ?_⟩
  · rw [Opcode.leadAfter, if_neg (by simpa using unset)] at ended
    have still := ended.toNat_index
    rw [size] at still
    exact still
  · rw [Opcode.leadAfter, if_pos set] at ended
    exact ended.state.trans (State.ahead_zero _)

/-- Stores two registers, moves the index register on by one of them, and points at a glyph. -/
def storesTwo : Source :=
  ⟨[0x60, 0x05, 0xA2, 0xF0, 0xF1, 0x55, 0xF0, 0x1E, 0xF0, 0x29], none⟩

theorem treatment_shows_in_index_only_storesTwo :
    let before : List Operation := [.load storesTwo, .step 0, .step 0]
    let i := (((new true).run before).step 0).1
    let j := (((new false).run before).step 0).1
    let added : List Operation := [.tick, .snapshot, .step 0]
    let pointed : List Operation := added ++ [.key (.press 1) 3, .step 0]
    (i.state.index.toNat = 0x2F2 ∧ j.state.index.toNat = 0x2F0)
      ∧ ((i.run added).state.index.toNat = 0x2F7 ∧ (j.run added).state.index.toNat = 0x2F5)
      ∧ (i.run pointed).state = (j.run pointed).state := by
  intro before i j added pointed
  obtain ⟨⟨start, sum, glyph⟩, ⟨moves, two⟩, stored, moved⟩ :
      ((new false).fetches before = [0x6005, 0xA2F0] ∧ j.fetches added = [0xF01E]
        ∧ j.fetches pointed = [0xF01E, 0xF029])
      ∧ (((new false).run before).state.fetch.MovesBlock
        ∧ ((new false).run before).state.fetch.x.val = 1)
      ∧ j.state.index.toNat = 0x2F0 ∧ (j.run added).state.index.toNat = 0x2F5 := by
    decide +kernel
  have unmoved : ∀ opcode ∈ (new false).fetches before, ¬ opcode.MovesBlock := by
    rw [start]
    exact List.forall_mem_cons.mpr ⟨by decide, List.forall_mem_singleton.mpr (by decide)⟩
  have adds : ∀ opcode ∈ j.fetches added, ¬ opcode.UsesIndex := by
    rw [sum]
    exact List.forall_mem_singleton.mpr (by decide)
  have unset : ∀ opcode ∈ j.fetches added, ¬ opcode.SetsIndex := by
    rw [sum]
    exact List.forall_mem_singleton.mpr (by decide)
  have points : ∀ opcode ∈ j.fetches pointed, ¬ opcode.UsesIndex := by
    rw [glyph]
    exact List.forall_mem_cons.mpr ⟨by decide, List.forall_mem_singleton.mpr (by decide)⟩
  have sets : ∃ opcode ∈ j.fetches pointed, opcode.SetsIndex :=
    ⟨0xF029, by simp [glyph], by decide⟩
  obtain ⟨-, after⟩ := treatment_shows_in_index_only before unmoved
  obtain ⟨-, -, ahead, later⟩ := after 0 moves
  obtain ⟨-, -, still, -⟩ := later added (by decide +kernel) adds
  obtain ⟨-, -, -, again⟩ := later pointed (by decide +kernel) points
  have afterAdding := still unset
  rw [two, stored] at ahead
  rw [two, moved] at afterAdding
  exact ⟨⟨ahead, stored⟩, ⟨afterAdding, moved⟩, again sets⟩

end Interpreter

end Chip8
