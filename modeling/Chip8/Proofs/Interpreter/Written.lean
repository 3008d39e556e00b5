import Chip8.Proofs.Instruction.Spelling
import Chip8.Proofs.Interpreter.Overlooked
import Chip8.Proofs.Interpreter.Soundness

/-!
# What has been written

An instruction that writes a register marks it, whatever the value, and reports that a register was
written; one that draws reports that. This file says that the three are exact. Marks stay from step
to step until a snapshot has shown them or a program is loaded, and a report is about one step only:
so a mark is about the steps since then (`WrittenUnseen`), and a report is about the step that makes
it, whatever was written, drawn, shown or failed before (`marks_exact`).

Which registers an opcode writes is read off its digits (`Opcode.writes`). Only `FX0A` makes that
depend on the state, as it writes when a key is down.
-/

set_option autoImplicit false

namespace Chip8

/-! ## Which registers -/

namespace Opcode

/-- `8XY0` to `8XY3` write `VX`, and `8XY4` to `8XY7` and `8XYE` the flag as well. -/
def arithmeticWrites (op : Opcode) (r : Register) : Bool :=
  match op.n.val with
  | 0x0 | 0x1 | 0x2 | 0x3 => r = op.x
  | 0x4 | 0x5 | 0x6 | 0x7 | 0xE => r = op.x || r = Registers.VF
  | _ => false

/-- `FX07`, `FX0A` and `FX65`. -/
def transferWrites (op : Opcode) (keyDown : Bool) (r : Register) : Bool :=
  match op.nn.toNat with
  | 0x07 => r = op.x
  | 0x0A => keyDown && r = op.x
  | 0x65 => r ≤ op.x
  | _ => false

/-- Whether the opcode writes the register, with or without a key down. -/
def writes (op : Opcode) (keyDown : Bool) (r : Register) : Bool :=
  match op.family.val with
  | 0x6 | 0x7 | 0xC => r = op.x
  | 0x8 => op.arithmeticWrites r
  | 0xD => r = Registers.VF
  | 0xF => op.transferWrites keyDown r
  | _ => false

/-- `00E0` and `DXYN`. -/
def draws (op : Opcode) : Bool := op = 0x00E0 || op.family = 0xD

end Opcode

namespace Instruction

def writes (keyDown : Bool) (r : Register) : Instruction → Bool
  | setRegister x _ | addToRegister x _ | copyRegister x _ | bitOr x _ | bitAnd x _ | bitXor x _
  | random x _ | copyDelayToRegister x => r = x
  | add x _ | subtractForward x _ | rightShift x _ | subtractBackward x _ | leftShift x _ =>
    r = x || r = Registers.VF
  | draw .. => r = Registers.VF
  | waitForKey x => keyDown && r = x
  | loadRegisters x => r ≤ x
  | _ => false

def draws : Instruction → Bool
  | clearScreen | draw .. => true
  | _ => false

theorem decodeArithmetic_writes (op : Opcode) (keyDown : Bool) (r : Register) :
    (decodeArithmetic op).writes keyDown r = op.arithmeticWrites r := by
  unfold decodeArithmetic Opcode.arithmeticWrites
  split <;> simp_all [writes]

theorem decodeTransfer_writes (op : Opcode) (keyDown : Bool) (r : Register) :
    (decodeTransfer op).writes keyDown r = op.transferWrites keyDown r := by
  unfold decodeTransfer Opcode.transferWrites
  split <;> simp_all [writes]

/-- The digits that name an instruction say what it writes. -/
theorem decode_writes (op : Opcode) (keyDown : Bool) (r : Register) :
    (decode op).writes keyDown r = op.writes keyDown r := by
  have arithmetic := decodeArithmetic_writes op keyDown r
  have transfer := decodeTransfer_writes op keyDown r
  unfold decode Opcode.writes
  generalize op.family = family
  match family with
  | 0 =>
    show (if _ then _ else if _ then _ else _ : Instruction).writes keyDown r = false
    split
    · rfl
    · split <;> rfl
  | 5 | 9 =>
    show (if _ then _ else _ : Instruction).writes keyDown r = false
    split <;> rfl
  | 8 => exact arithmetic
  | 0xE =>
    show (decodeKeySkip op).writes keyDown r = false
    unfold decodeKeySkip
    split <;> rfl
  | 0xF => exact transfer
  | 1 | 2 | 3 | 4 | 6 | 7 | 0xA | 0xB | 0xC | 0xD => rfl
  | ⟨k + 16, hk⟩ => omega

theorem decode_draws (op : Opcode) : (decode op).draws = op.draws := by
  have spelled := decode_spelled op
  -- the clearing opcode is one of those that begin with 0
  have other (h : op.family ≠ 0) : op ≠ 0x00E0 := by
    rintro rfl
    exact h rfl
  generalize decode op = ins at spelled ⊢
  cases ins with
  | ret =>
    rw [spelled]
    rfl
  | unknown =>
    obtain ⟨family | family, _⟩ | ⟨family, _⟩ | ⟨family, _⟩ | ⟨family, _⟩ := spelled.1 <;>
      simp_all [draws, Opcode.draws]
  | _ => simp_all [Spelled, Opcode.Transfer, draws, Opcode.draws]

end Instruction

theorem Keypad.firstDown_isSome (k : Keypad) : k.firstDown.isSome = k.anyDown := by
  rw [Bool.eq_iff_iff, firstDown, anyDown, List.find?_isSome]
  simp only [List.mem_finRange, true_and, Fin.exists_iff, Vector.any_eq_true, id]
  rfl

namespace Registers

/-- What is left of the registers, and what is marked, once those that `w` names were written. -/
structure Wrote (w : Register → Bool) (before after : Registers) : Prop where
  changed (r : Register) : after.changed.get r = (before.changed.get r || w r)
  dirty : after.dirty = true ↔ before.dirty = true ∨ ∃ r, w r = true
  kept {r : Register} : w r = false → after.get r = before.get r

variable {v w : Register → Bool} {a b c : Registers}

theorem Wrote.nothing (a : Registers) : Wrote (fun _ => false) a a :=
  ⟨fun r => (Bool.or_false _).symm, by simp, fun _ => rfl⟩

theorem Wrote.write (a : Registers) (x : Register) (value : UInt8) :
    Wrote (fun r => r = x) a (a.write x value) where
  changed r := by
    show (a.changed.set x.val true x.isLt)[r.val] = (a.changed[r.val] || _)
    rw [Vector.getElem_set]
    by_cases h : r = x
    · simp [h]
    · have h' : x.val ≠ r.val := fun e => h (Fin.ext e.symm)
      simp [h, h']
  dirty := by simp [Registers.write]
  kept h := a.get_write_of_ne value fun e => by simp [e] at h

theorem Wrote.writeThrough (a : Registers) (x : Register) (value : Register → UInt8) :
    Wrote (fun r => r ≤ x) a (a.writeThrough x value) where
  changed r := by
    show (Vector.ofFn fun k : Register => if k ≤ x then true else a.changed.get k)[r.val] = _
    rw [Vector.getElem_ofFn]
    by_cases h : r ≤ x <;> simp [h]
  dirty := by
    have some : ∃ r : Register, decide (r ≤ x) = true := ⟨x, by simp⟩
    simp only [Registers.writeThrough, some, or_true]
  kept {r} h := by
    show (Vector.ofFn fun k : Register => if k ≤ x then value k else a.values.get k)[r.val] = _
    rw [Vector.getElem_ofFn, if_neg (of_decide_eq_false h)]
    rfl

theorem Wrote.trans (first : Wrote v a b) (second : Wrote w b c) :
    Wrote (fun r => v r || w r) a c where
  changed r := by rw [second.changed, first.changed, Bool.or_assoc]
  dirty := by
    rw [second.dirty, first.dirty, or_assoc, ← exists_or]
    simp only [Bool.or_eq_true]
  kept h := by
    obtain ⟨hv, hw⟩ := Bool.or_eq_false_iff.mp h
    rw [second.kept hw, first.kept hv]

end Registers

/-! ## One step -/

namespace State

/-- What `t` says about the instruction that led to it from `s`. -/
structure Tells (ins : Instruction) (s t : State) : Prop where
  wrote : s.registers.Wrote (fun r => ins.writes s.keypad.anyDown r) t.registers
  redraw : t.redraw = (s.redraw || ins.draws)

variable {s t : State}

theorem Tells.skipIf {ins : Instruction} (h : Tells ins s t) (c : Bool) :
    Tells ins s (t.skipIf c) := by
  cases c <;> exact ⟨h.wrote, h.redraw⟩

theorem Tells.advanceIndex {ins : Instruction} (h : Tells ins s t) (advances : Bool)
    (x : Register) : Tells ins s (t.advanceIndex advances x) := by
  cases advances <;> exact ⟨h.wrote, h.redraw⟩

/-- **An instruction tells what it has written** and whether it has drawn. -/
theorem execute_tells {advances : Bool} {random : UInt8} {pc : UInt16} {ins : Instruction}
    (hex : s.execute advances random pc ins = .ok t) : Tells ins s t := by
  have still : s.redraw = (s.redraw || false) := (Bool.or_false _).symm
  have drawn : true = (s.redraw || true) := (Bool.or_true _).symm
  cases ins with
  | ret | call =>
    simp only [execute] at hex
    split at hex
    · cases hex
    · cases hex
      exact ⟨.nothing _, still⟩
  | waitForKey x =>
    -- the one instruction that writes or does not, as the keys are
    have down := s.keypad.firstDown_isSome
    simp only [execute] at hex
    split at hex
    · next key hkey =>
      cases hex
      rw [hkey] at down
      refine ⟨?_, still⟩
      simp only [Instruction.writes, ← down]
      exact .write _ _ _
    · next hkey =>
      cases hex
      rw [hkey] at down
      refine ⟨?_, still⟩
      simp only [Instruction.writes, ← down]
      exact .nothing _
  | skipEqualConstant | skipNotEqualConstant | skipEqualRegister | skipNotEqualRegister
  | skipIfPressed | skipIfNotPressed =>
    cases hex
    refine Tells.skipIf ?_ _
    exact ⟨.nothing _, still⟩
  | setRegister | addToRegister | copyRegister | bitOr | bitAnd | bitXor | random
  | copyDelayToRegister =>
    cases hex
    exact ⟨.write _ _ _, still⟩
  -- two writes, the flag last; where `X` is `F` they fall on one register
  | add | subtractForward | subtractBackward | rightShift | leftShift =>
    cases hex
    exact ⟨(Registers.Wrote.write _ _ _).trans (.write _ _ _), still⟩
  | draw =>
    cases hex
    exact ⟨.write _ _ _, drawn⟩
  | clearScreen =>
    cases hex
    exact ⟨.nothing _, drawn⟩
  | storeRegisters x =>
    cases hex
    refine Tells.advanceIndex ?_ advances x
    exact ⟨.nothing _, still⟩
  | loadRegisters x =>
    cases hex
    refine Tells.advanceIndex ?_ advances x
    exact ⟨.writeThrough _ _ _, still⟩
  | _ =>
    cases hex
    exact ⟨.nothing _, still⟩

/-- Whether the next step writes the register. -/
def writes (s : State) (r : Register) : Bool := s.fetch.writes s.keypad.anyDown r

/-- Calls and returns are all that can fail, and they write nothing. -/
theorem writes_of_stuck? {f : StackFault} (h : s.stuck? = some f) (r : Register) :
    s.writes r = false := by
  rw [writes, ← Instruction.decode_writes]
  unfold stuck? at h
  split at h
  · next decoded => rw [decoded]; rfl
  · next decoded => rw [decoded]; rfl
  · cases h

/-- A step that does not fail reports what its instruction tells. -/
theorem step_of_not_stuck (h : s.stuck? = none) (advances : Bool) (random : UInt8) :
    ∃ t, Tells (Instruction.decode s.fetch) s t
      ∧ s.step advances random
          = (t.settled, .ok ⟨⟨s.pc, s.fetch⟩, t.redraw, t.registers.dirty⟩) := by
  cases hex : State.execute advances random s.pc { s.noted with pc := after s.pc }
      (Instruction.decode s.fetch) with
  | error fault =>
    have fails : (s.step advances random).2 = .error fault := by
      unfold step
      rw [hex]
    rw [(step_error_iff advances random).mp fails] at h
    cases h
  | ok t =>
    have told := execute_tells hex
    exact ⟨t, ⟨told.wrote, told.redraw⟩, step_of_execute hex⟩

/-- **A step marks what it writes, whether or not it fails**, and leaves every other register as it
was. -/
theorem step_writes (s : State) (advances : Bool) (random : UInt8) (r : Register) :
    (s.step advances random).1.registers.changed.get r
        = (s.registers.changed.get r || s.writes r)
      ∧ (s.writes r = false →
          (s.step advances random).1.registers.get r = s.registers.get r) := by
  cases stuck : s.stuck? with
  | some fault =>
    rw [step_of_stuck? stuck, writes_of_stuck? stuck, Bool.or_false]
    exact ⟨rfl, fun _ => rfl⟩
  | none =>
    obtain ⟨t, told, stepped⟩ := step_of_not_stuck stuck advances random
    rw [stepped, writes, ← Instruction.decode_writes]
    exact ⟨told.wrote.changed r, fun unwritten => told.wrote.kept unwritten⟩

/-- **A report is about the step that makes it**, as long as nothing is left from before. -/
theorem step_reports (h : s.Sound) {advances : Bool} {random : UInt8} {done : Executed}
    (succeeds : (s.step advances random).2 = .ok done) :
    (done.registersChanged = true ↔ ∃ r, s.writes r = true)
      ∧ (done.redraw = true ↔ s.fetch.draws = true) := by
  cases stuck : s.stuck? with
  | some fault =>
    rw [step_of_stuck? stuck] at succeeds
    cases succeeds
  | none =>
    obtain ⟨t, told, stepped⟩ := step_of_not_stuck stuck advances random
    rw [stepped] at succeeds
    cases succeeds
    constructor
    · have wrote := told.wrote.dirty
      simpa [h.dirty, Instruction.decode_writes, writes] using wrote
    · have drawn := told.redraw
      rw [h.redraw, Bool.false_or, Instruction.decode_draws] at drawn
      rw [drawn]

end State

/-! ## Runs -/

/-- A snapshot, or a load that succeeds. -/
def Operation.unmarks : Operation → Bool
  | .snapshot => true
  | op => op.replaces

namespace Interpreter

/-- Some step of the run wrote the register, and since then no snapshot was taken and no program
loaded. -/
def WrittenUnseen (i : Interpreter) (ops : List Operation) (r : Register) : Prop :=
  ∃ before random after, ops = before ++ .step random :: after
    ∧ (i.run before).state.writes r = true ∧ ∀ op ∈ after, op.unmarks = false

/-- The first operation is the step that wrote, or it is another one. -/
theorem writtenUnseen_cons {i : Interpreter} {op : Operation} {ops : List Operation}
    {r : Register} :
    i.WrittenUnseen (op :: ops) r
      ↔ ((op.isStep = true ∧ i.state.writes r = true) ∧ ∀ op ∈ ops, op.unmarks = false)
        ∨ (i.perform op).WrittenUnseen ops r := by
  constructor
  · rintro ⟨before, random, after, cut, wrote, unseen⟩
    rcases List.cons_eq_append_iff.mp cut with ⟨rfl, first⟩ | ⟨before, rfl, rest⟩
    · cases first
      exact .inl ⟨⟨rfl, wrote⟩, unseen⟩
    · exact .inr ⟨before, random, after, rest, wrote, unseen⟩
  · rintro (⟨⟨step, wrote⟩, unseen⟩ | ⟨before, random, after, rfl, wrote, unseen⟩)
    · obtain ⟨random, rfl⟩ := Operation.exists_of_isStep step
      exact ⟨[], random, ops, rfl, wrote, unseen⟩
    · exact ⟨op :: before, random, after, rfl, wrote, unseen⟩

/-- What one operation makes of a mark. -/
theorem perform_changed (i : Interpreter) (op : Operation) (r : Register) :
    (i.perform op).state.registers.changed.get r = true
      ↔ (op.isStep = true ∧ i.state.writes r = true)
        ∨ (i.state.registers.changed.get r = true ∧ op.unmarks = false) := by
  have none : (Vector.replicate 16 false).get r = false := Vector.getElem_replicate _
  cases op with
  | load source =>
    cases loads : (Operation.load source).replaces with
    | true =>
      obtain ⟨memory, fresh⟩ := perform_load_state i loads
      rw [fresh]
      show (Vector.replicate 16 false).get r = true ↔ _
      simp [none, Operation.isStep, Operation.unmarks, loads]
    | false =>
      rw [perform_failed_load i loads]
      simp [Operation.isStep, Operation.unmarks, loads]
  | step random =>
    have marked := (i.state.step_writes i.advancesIndex random r).1
    show (i.state.step i.advancesIndex random).1.registers.changed.get r = true ↔ _
    rw [marked]
    simp [Operation.isStep, Operation.unmarks, Operation.replaces, or_comm]
  | snapshot =>
    show (Vector.replicate 16 false).get r = true ↔ _
    simp [none, Operation.isStep, Operation.unmarks]
  | tick | key | expire | clearKeys =>
    show i.state.registers.changed.get r = true ↔ _
    simp [Operation.isStep, Operation.unmarks, Operation.replaces]

/-- **A register is marked at the end of a run** if a step wrote it unseen, or if it was marked at
the beginning and nothing has unmarked it. -/
theorem run_changed (i : Interpreter) (ops : List Operation) (r : Register) :
    (i.run ops).state.registers.changed.get r = true
      ↔ i.WrittenUnseen ops r
        ∨ (i.state.registers.changed.get r = true ∧ ∀ op ∈ ops, op.unmarks = false) := by
  induction ops generalizing i with
  | nil =>
    have nothing : ¬ i.WrittenUnseen [] r := by
      rintro ⟨before, random, after, cut, -⟩
      exact absurd cut.symm (by simp)
    simp [nothing]
  | cons op ops ih =>
    rw [run_cons, ih, writtenUnseen_cons, perform_changed, List.forall_mem_cons, or_and_right,
      or_left_comm, ← or_assoc, and_assoc (b := op.unmarks = false)]

/-- **Marks and reports are exact.** After any run from the start, a snapshot marks the registers
that some step wrote since the last snapshot and the last program loaded, and no others. A step
that succeeds says that a register was written exactly if its own opcode writes one, and that the
screen is to be drawn again exactly if its own opcode is one of the two that draw. A register that
the opcode does not write keeps its value. -/
theorem marks_exact (advances : Bool) (ops : List Operation) :
    let i := (new advances).run ops
    (∀ r, i.state.snapshot.1.changed.get r = true ↔ (new advances).WrittenUnseen ops r)
      ∧ (∀ random done, (i.step random).2 = .ok done →
          (done.registersChanged = true ↔ ∃ r, i.state.writes r = true)
            ∧ (done.redraw = true ↔ i.state.fetch.draws = true))
      ∧ ∀ random r, i.state.writes r = false →
          (i.step random).1.state.registers.get r = i.state.registers.get r := by
  intro i
  have sound : i.state.Sound := run_sound advances ops
  refine ⟨fun r => ?_, fun random done succeeds => State.step_reports sound succeeds,
    fun random r => (i.state.step_writes i.advancesIndex random r).2⟩
  have unmarked : (new advances).state.registers.changed.get r = false := Vector.getElem_replicate _
  have marked := run_changed (new advances) ops r
  rw [unmarked] at marked
  exact marked.trans (by simp)

/-- Sets `V1`, adds it to itself, draws with it, and returns from nowhere. -/
def doubleAndDraw : Source := ⟨[0x61, 0xFF, 0x81, 0x14, 0xD0, 0x11, 0x00, 0xEE], none⟩

/-- The first write is seen, the sum and its flag are not. -/
def halfSeen : List Operation :=
  [.load doubleAndDraw, .step 0, .snapshot, .key (.press 3) 5, .step 0, .tick,
    .load ⟨[], some "unreadable"⟩]

theorem marks_exact_halfSeen :
    ((new false).WrittenUnseen halfSeen 1 ∧ (new false).WrittenUnseen halfSeen 15
        ∧ ¬ (new false).WrittenUnseen halfSeen 0)
      ∧ (∃ done, (((new false).run halfSeen).step 0).2 = .ok done
          ∧ done.registersChanged = true ∧ done.redraw = true)
      ∧ (((new false).run halfSeen).state.writes 1 = false
        ∧ (((new false).run halfSeen).step 0).1.state.registers.get 1
          = ((new false).run halfSeen).state.registers.get 1) := by
  obtain ⟨marks, reports, kept⟩ := marks_exact false halfSeen
  have shown : ((new false).run halfSeen).state.snapshot.1.changed.get 1 = true
      ∧ ((new false).run halfSeen).state.snapshot.1.changed.get 15 = true
      ∧ ¬ ((new false).run halfSeen).state.snapshot.1.changed.get 0 = true := by
    decide +kernel
  obtain ⟨writes, leaves, draws, succeeds⟩ : ((new false).run halfSeen).state.writes 15 = true
      ∧ ((new false).run halfSeen).state.writes 1 = false
      ∧ ((new false).run halfSeen).state.fetch.draws = true
      ∧ (((new false).run halfSeen).step 0).2.isOk = true := by
    decide +kernel
  refine ⟨⟨(marks 1).mp shown.1, (marks 15).mp shown.2.1, fun h => shown.2.2 ((marks 0).mpr h)⟩, ?_,
    leaves, kept 0 1 leaves⟩
  cases done : (((new false).run halfSeen).step 0).2 with
  | error fault => rw [done] at succeeds; cases succeeds
  | ok done' =>
    obtain ⟨changed, redraw⟩ := reports 0 done' done
    exact ⟨done', rfl, changed.mpr ⟨15, writes⟩, redraw.mpr draws⟩

end Interpreter

end Chip8
