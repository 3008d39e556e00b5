import Mathlib.Data.List.DropRight
import Chip8.Proofs.Interpreter.Frame
import Chip8.Proofs.Interpreter.Independence
import Chip8.Proofs.Memory.Wrapping

/-!
# The instruction that was tried last

The state remembers one instruction, by its address and its word, and whoever shows the machine is
told about that one. This file says which it is: the one of the last step since a program was loaded,
whether the step succeeded or failed, and whatever the instruction did to the bytes it was read from
and to the program counter. If there was no such step, there is none to be shown.

Only steps and loads write the note. That a step notes what it fetches before it executes it is in
`State.step_last`; here it is followed through runs.
-/

set_option autoImplicit false

namespace Chip8

/-! ## Cutting a run at its last load and at its last step -/

namespace Operation

/-- What was done since the last load that succeeded, or since the beginning. -/
def sinceLoad (ops : List Operation) : List Operation := ops.rtakeWhile fun op => !op.replaces

/-- The last step of the run came after `before`, and no program was loaded since. -/
def LastStep (ops before : List Operation) (random : UInt8) : Prop :=
  ∃ after, ops = before ++ .step random :: after
    ∧ ∀ op ∈ after, op.isStep = false ∧ op.replaces = false

variable {ops : List Operation} {op : Operation}

theorem sinceLoad_concat_of_replaces (ops : List Operation) (loads : op.replaces = true) :
    sinceLoad (ops ++ [op]) = [] :=
  List.rtakeWhile_concat_neg _ _ _ (by simp [loads])

theorem sinceLoad_concat (ops : List Operation) (kept : op.replaces = false) :
    sinceLoad (ops ++ [op]) = sinceLoad ops ++ [op] :=
  List.rtakeWhile_concat_pos _ _ _ (by simp [kept])

theorem LastStep.concat {before : List Operation} {random : UInt8}
    (h : LastStep ops before random) (quiet : op.isStep = false) (kept : op.replaces = false) :
    LastStep (ops ++ [op]) before random := by
  obtain ⟨after, rfl, later⟩ := h
  refine ⟨after ++ [op], by simp, fun op' here => ?_⟩
  rcases List.mem_append.mp here with earlier | now
  · exact later op' earlier
  · cases List.mem_singleton.mp now
    exact ⟨quiet, kept⟩

/-- If there was a step since the last load, there was a last one. -/
theorem exists_lastStep (tried : ∃ op ∈ sinceLoad ops, op.isStep = true) :
    ∃ before random, LastStep ops before random := by
  induction ops using List.reverseRecOn with
  | nil =>
    obtain ⟨_, nowhere, _⟩ := tried
    cases nowhere
  | append_singleton ops op ih =>
    obtain ⟨step, here, isStep⟩ := tried
    cases loads : op.replaces with
    | true =>
      rw [sinceLoad_concat_of_replaces ops loads] at here
      cases here
    | false =>
      rw [sinceLoad_concat ops loads] at here
      cases steps : op.isStep with
      | true =>
        obtain ⟨random, rfl⟩ := exists_of_isStep steps
        exact ⟨ops, random, [], rfl, nofun⟩
      | false =>
        rcases List.mem_append.mp here with earlier | now
        · obtain ⟨before, random, last⟩ := ih ⟨step, earlier, isStep⟩
          exact ⟨before, random, last.concat steps loads⟩
        · rw [List.mem_singleton.mp now, steps] at isStep
          cases isStep

end Operation

/-! ## The note -/

namespace State

/-- A step that succeeds reports the note it leaves. -/
theorem listing_of_step {s : State} {advances : Bool} {random : UInt8} {done : Executed}
    (succeeds : (s.step advances random).2 = .ok done) : done.listing = ⟨s.pc, s.fetch⟩ := by
  unfold step at succeeds
  split at succeeds
  · cases succeeds
  · cases succeeds
    rfl

end State

namespace Interpreter

open Operation

variable {i : Interpreter} {ops before : List Operation} {random : UInt8}

/-- Without a step since the last load, nothing is noted. -/
theorem run_unnoted (advances : Bool) (untried : ∀ op ∈ sinceLoad ops, op.isStep = false) :
    ((new advances).run ops).state.last = none ∧ ((new advances).run ops).state.opcode = 0 := by
  induction ops using List.reverseRecOn with
  | nil => exact ⟨rfl, rfl⟩
  | append_singleton ops op ih =>
    rw [run_append, run_cons, run_nil]
    cases loads : op.replaces with
    | true =>
      obtain ⟨source, rfl⟩ := exists_of_replaces loads
      obtain ⟨memory, fresh⟩ := ((new advances).run ops).perform_load_state loads
      rw [fresh]
      exact ⟨rfl, rfl⟩
    | false =>
      rw [sinceLoad_concat ops loads] at untried
      obtain ⟨earlier, now⟩ := List.forall_mem_append.mp untried
      have quiet := now op List.mem_cons_self
      have alike := State.Alike.of_inner (perform_inner ((new advances).run ops) quiet loads)
      rw [alike.last, alike.opcode]
      exact ih earlier

/-- **The note of the last step stays** until a program is loaded. -/
theorem run_note (last : LastStep ops before random) :
    (i.run ops).state.last = some ⟨(i.run before).state.pc, (i.run before).state.fetch⟩
      ∧ (i.run ops).state.opcode = (i.run before).state.fetch := by
  obtain ⟨after, rfl, later⟩ := last
  rw [run_append, run_cons]
  have still := run_without_step (i := (i.run before).perform (.step random))
    (fun op here => (later op here).1) fun op here => (later op here).2
  have alike := State.Alike.of_inner still.1
  rw [alike.last, alike.opcode]
  exact ⟨(i.run before).state.step_last _ _, (i.run before).state.step_opcode _ _⟩

/-- **The note tells what was tried last.** After any run from the start, no instruction is noted
and the opcode is 0 exactly if no step was made since the last load that succeeded, or at all. If one
was, there is a last one; take the state it began with. The note has the address that the step
fetched from; its opcode is the one that the state shows, and the word that stood there in memory
then, the more significant byte first and the next address wrapped; name, category and description
are those of what this word decodes to; and if the step succeeded, it reported the same note. Whether
the step succeeded, jumped, or wrote over itself makes no difference. -/
theorem note_of_last_attempt (advances : Bool) (ops : List Operation) :
    let s := ((new advances).run ops).state
    (s.last = none ∧ s.opcode = 0 ↔ ∀ op ∈ sinceLoad ops, op.isStep = false)
      ∧ ((∃ op ∈ sinceLoad ops, op.isStep = true) → ∃ before random, LastStep ops before random)
      ∧ ∀ before random, LastStep ops before random →
          let i := (new advances).run before
          let t := i.state
          ∃ note, s.last = some note
            ∧ note.pc = t.pc
            ∧ note.opcode = s.opcode
            ∧ note.opcode.toNat = 256 * (t.memory.byteAt t.pc.toNat).toNat
                + (t.memory.byteAt (t.pc.toNat + 1)).toNat
            ∧ (note.mnemonic = (Instruction.decode note.opcode).mnemonic
              ∧ note.category = (Instruction.decode note.opcode).category
              ∧ note.description = (Instruction.decode note.opcode).description)
            ∧ ∀ done, (i.step random).2 = .ok done → done.listing = note := by
  intro s
  refine ⟨⟨fun ⟨unnoted, _⟩ op here => ?_, run_unnoted advances⟩, exists_lastStep,
    fun before random last => ?_⟩
  · by_contra isStep
    obtain ⟨before, random, last⟩ := exists_lastStep ⟨op, here, by simpa using isStep⟩
    rw [show s.last = _ from (run_note last).1] at unnoted
    cases unnoted
  · obtain ⟨noted, opcode⟩ := run_note (i := new advances) last
    exact ⟨_, noted, rfl, opcode.symm, Memory.toNat_word _ _, ⟨rfl, rfl, rfl⟩,
      fun done succeeds => State.listing_of_step succeeds⟩

/-- Writes three zeros over the instruction that writes them, and then returns from nowhere. -/
def overItself : Source := ⟨[0xA2, 0x02, 0xF0, 0x33, 0x00, 0xEE], none⟩

/-- The word is gone from memory, and the note still has it, until the return fails and is noted. -/
theorem note_of_last_attempt_overItself :
    let ops : List Operation := [.load overItself, .step 0, .step 0, .tick, .load ⟨[], some "gone"⟩]
    let s := ((new false).run ops).state
    let t := ((new false).run (ops ++ [.step 0, .snapshot])).state
    (s.memory.byteAt 0x202 = 0 ∧ s.last = some ⟨0x202, 0xF033⟩ ∧ s.opcode = 0xF033)
      ∧ (((new false).run ops).step 0).2 = .error (.underflow 0x204)
      ∧ (t.last = some ⟨0x204, 0x00EE⟩ ∧ t.opcode = 0x00EE) := by
  intro ops s t
  obtain ⟨-, -, written⟩ := note_of_last_attempt false ops
  obtain ⟨-, -, failed⟩ := note_of_last_attempt false (ops ++ [.step 0, .snapshot])
  obtain ⟨⟨gone, place, word⟩, ⟨fault, place', word'⟩⟩ :
      (s.memory.byteAt 0x202 = 0
        ∧ ((new false).run (ops.take 2)).state.pc = 0x202 ∧ s.opcode = 0xF033)
      ∧ ((((new false).run ops).step 0).2 = .error (.underflow 0x204)
        ∧ ((new false).run ops).state.pc = 0x204 ∧ t.opcode = 0x00EE) := by
    decide +kernel
  obtain ⟨note, noted, pc, opcode, -⟩ := written (ops.take 2) 0 ⟨_, rfl, by decide +kernel⟩
  obtain ⟨note', noted', pc', opcode', -⟩ := failed ops 0 ⟨[.snapshot], rfl, by decide +kernel⟩
  have first : note = ⟨0x202, 0xF033⟩ :=
    congr (congrArg Listing.mk (pc.trans place)) (opcode.trans word)
  have second : note' = ⟨0x204, 0x00EE⟩ :=
    congr (congrArg Listing.mk (pc'.trans place')) (opcode'.trans word')
  exact ⟨⟨gone, first ▸ noted, word⟩, fault, second ▸ noted', word'⟩

end Interpreter

end Chip8
