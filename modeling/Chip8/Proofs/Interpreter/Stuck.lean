import Chip8.Proofs.Interpreter.Fault
import Chip8.Proofs.Interpreter.InPlace
import Chip8.Proofs.Interpreter.Inner

/-!
# A step that fails

A call or a return that fails is noted as the last instruction, and that is all that becomes of it.
A step writes before it fails, so this is said of the step in place: what it leaves of the storage
is what was there, but for the two components that note the instruction.

Noting it again changes nothing. So the state it leaves is one that a step leaves as it is, and what
is known of such states applies: they stay, inwardly, and every later step fails the same way,
whatever happens to timers and keys, until a program is loaded.
-/

set_option autoImplicit false

namespace Chip8

namespace State

variable {s : State} {fault : StackFault}

/-- Only calls and returns fail, and neither looks outside. -/
theorem inward_of_stuck? (h : s.stuck? = some fault) : s.fetch.looksOutside = false := by
  rw [← Opcode.decode_looksOutside]
  unfold stuck? at h
  split at h
  · next decoded => rw [decoded]; rfl
  · next decoded => rw [decoded]; rfl
  · cases h

/-- Noting the instruction changes nothing where it is the one that is noted already, and that much
is shown. -/
theorem Alike.noted_eq {t : State} (alike : s.Alike t) (noted : s.noted = s) : t.noted = t := by
  have fetch : t.fetch = s.fetch := by
    unfold fetch
    rw [alike.memory, alike.pc]
  have opcode : t.fetch = t.opcode := by
    rw [fetch, ← alike.opcode]
    exact congrArg State.opcode noted
  have last : some ⟨t.pc, t.fetch⟩ = t.last := by
    rw [fetch, ← alike.pc, ← alike.last]
    exact congrArg State.last noted
  unfold State.noted
  rw [last, opcode]

end State

namespace Interpreter

theorem step_eq_error_iff {i : Interpreter} {random : UInt8} {fault : StackFault} :
    (i.step random).2 = .error fault ↔ i.state.stuck? = some fault :=
  State.step_error_iff i.advancesIndex random

/-- A step that fails only notes the instruction. -/
theorem step_of_error {i : Interpreter} {random : UInt8} {fault : StackFault}
    (failed : (i.step random).2 = .error fault) :
    (i.step random).1 = { i with state := i.state.noted } := by
  show { i with state := (i.state.step i.advancesIndex random).1 } = _
  rw [State.step_of_stuck? (step_eq_error_iff.mp failed)]

/-- In place, too, a step fails exactly where `stuck?` says so. -/
theorem stepInPlace_error_iff {i : Interpreter} {random : UInt8} {fault : StackFault}
    {left : ArrayState} :
    i.stepInPlace random = some (.error fault, left)
      ↔ i.state.stuck? = some fault ∧ left = i.state.noted.toArrays := by
  rw [stepInPlace_eq, Option.some.injEq, Prod.mk.injEq, step_eq_error_iff]
  refine and_congr_right fun stuck => ?_
  rw [step_of_error (step_eq_error_iff.mpr stuck)]
  exact eq_comm

/-- **A fault is atomic and sticky.** A step that fails leaves all storage as it was, down to the
flags that wait to be reported, except that the last opcode and the last instruction are replaced by
its own; the fault names the address that the program counter stands on. This is what is left in
place, and it is the state that `step` gives. From then on, whatever is done short of loading a
program, every step fails with the same fault and leaves in place what it finds, and nothing changes
that the program shows. -/
theorem fault_atomic_and_sticky {i : Interpreter} {random : UInt8} {fault : StackFault}
    {left : ArrayState} (failed : i.stepInPlace random = some (.error fault, left)) :
    let faulted := (i.step random).1
    left = { i.state.toArrays with
        opcode := i.state.fetch, last := some ⟨i.state.pc, i.state.fetch⟩ }
      ∧ fault.pc = left.pc
      ∧ ((i.step random).2 = .error fault
        ∧ faulted = { i with state := { i.state with
          opcode := i.state.fetch, last := some ⟨i.state.pc, i.state.fetch⟩ } }
        ∧ faulted.state.toArrays = left)
      ∧ ∀ later : List Operation, (∀ op ∈ later, op.replaces = false) →
          faulted.state.Alike (faulted.run later).state
            ∧ ∀ random', ((faulted.run later).step random').2 = .error fault
              ∧ (faulted.run later).stepInPlace random'
                = some (.error fault, (faulted.run later).state.toArrays) := by
  intro faulted
  obtain ⟨stuck, hleft⟩ := stepInPlace_error_iff.mp failed
  have fails : (i.step random).2 = .error fault := step_eq_error_iff.mpr stuck
  have hfaulted : faulted = { i with state := i.state.noted } := step_of_error fails
  refine ⟨hleft, ?_, ⟨fails, hfaulted, ?_⟩, ?_⟩
  · rw [hleft]
    exact State.pc_of_stuck? stuck
  · rw [hfaulted, hleft]
  · intro later kept
    -- the noted state fails in the same way, and noting it once more changes nothing
    have again : (faulted.step random).2 = .error fault :=
      step_eq_error_iff.mpr (State.stuck?_step stuck i.advancesIndex random)
    have fixed : (faulted.step random).1 = faulted := by
      rw [step_of_error again, hfaulted]
      rfl
    obtain ⟨stays, same⟩ := run_of_fixed (State.inward_of_stuck? (step_eq_error_iff.mp again))
      (congrArg (fun j => j.state.inner) fixed) rfl rfl kept
    have alike : faulted.state.Alike (faulted.run later).state := .of_inner stays
    have noted : (faulted.run later).state.noted = (faulted.run later).state :=
      alike.noted_eq (by rw [hfaulted]; rfl)
    refine ⟨alike, fun random' => ?_⟩
    have fails' := (same random').trans again
    exact ⟨fails', stepInPlace_error_iff.mpr ⟨step_eq_error_iff.mp fails', by rw [noted]⟩⟩

/-- A program that calls itself, run until the call stack is full. -/
def nested : Interpreter :=
  ((new true).run (.load ⟨[0x22, 0x00], none⟩ :: List.replicate 16 (.step 0)))

theorem fault_atomic_and_sticky_nested :
    nested.stepInPlace 0 = some (.error (.overflow 0x200), nested.state.noted.toArrays)
      ∧ nested.state.noted.toArrays = { nested.state.toArrays with
          opcode := 0x2200, last := some ⟨0x200, 0x2200⟩ }
      ∧ (((nested.step 0).1.run [.tick, .key (.press 4) 1, .step 7, .load ⟨[], some "unreadable"⟩,
            .expire 0 9, .snapshot]).step 0).2 = .error (.overflow 0x200) := by
  have stuck : nested.state.stuck? = some (.overflow 0x200) := by decide +kernel
  have fetched : nested.state.fetch = 0x2200 := by decide +kernel
  have stands : nested.state.pc = 0x200 := by decide +kernel
  have failed : nested.stepInPlace 0
      = some (.error (.overflow 0x200), nested.state.noted.toArrays) :=
    stepInPlace_error_iff.mpr ⟨stuck, rfl⟩
  obtain ⟨atomic, -, -, sticky⟩ := fault_atomic_and_sticky failed
  rw [fetched, stands] at atomic
  exact ⟨failed, atomic, ((sticky _ (by decide +kernel)).2 0).1⟩

end Interpreter

end Chip8
