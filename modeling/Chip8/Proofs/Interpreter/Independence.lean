import Chip8.Proofs.Interpreter.Inner

/-!
# A program that does not look outside

Between the steps of a run anything may happen to timers and keys, and nothing says how often or
when. This file says that it makes no difference to a program that does not look: two runs from the
same load, with the same number of steps, agree in all that `State.Alike` names, and their steps
came to the same, however the steps were interleaved with everything else.

Only one of the two runs has to be watched for the five opcodes that look outside. The other one
fetches the same opcodes as long as it agrees.

Once such a program has jumped to itself, not even the number of steps matters.
-/

set_option autoImplicit false

namespace Chip8

namespace State

/-- The next instruction is a `1NNN` that jumps to its own address. -/
def jumpsToItself (s : State) : Prop := s.fetch.family = 1 ∧ s.fetch.nnn.toWord = s.pc

instance (s : State) : Decidable s.jumpsToItself := inferInstanceAs (Decidable (_ ∧ _))

variable {s : State}

theorem jumpsToItself.inward (h : s.jumpsToItself) : s.fetch.looksOutside = false := by
  simp [Opcode.looksOutside, h.1]

/-- A jump to itself is noted, and nothing else happens. -/
theorem jumpsToItself.step (h : s.jumpsToItself) (advances : Bool) (random : UInt8) :
    (s.step advances random).1
      = { s.noted with redraw := false, registers := s.registers.reported } := by
  have decoded : Instruction.decode s.fetch = .jump s.fetch.nnn := by
    unfold Instruction.decode
    rw [h.1]
    rfl
  unfold State.step
  rw [decoded]
  simp only [execute]
  rw [h.2]
  rfl

/-- The step after it finds everything as it leaves it. -/
theorem jumpsToItself.step_step (h : s.jumpsToItself) (advances advances' : Bool)
    (random random' : UInt8) :
    ((s.step advances random).1.step advances' random').1 = (s.step advances random).1 := by
  rw [h.step]
  have again :
      { s.noted with redraw := false, registers := s.registers.reported }.jumpsToItself := h
  rw [again.step]
  rfl

end State

namespace Interpreter

/-- The opcodes that the steps of a run fetch. -/
def fetches (i : Interpreter) (ops : List Operation) : List Opcode :=
  i.stepHistory (fun i _ => i.state.fetch) ops

/-- What the steps of a run come to. -/
def outcomes (i : Interpreter) (ops : List Operation) : List (Except StackFault Executed) :=
  i.stepHistory (fun i random => (i.step random).2) ops

/-- Without a step nothing inner changes and nothing is reported. -/
theorem run_without_step {ops : List Operation} (still : ∀ op ∈ ops, op.isStep = false) :
    ∀ {i : Interpreter}, (∀ op ∈ ops, op.replaces = false) →
      (i.run ops).state.inner = i.state.inner ∧ i.outcomes ops = [] := by
  induction ops with
  | nil => intro i _; exact ⟨rfl, rfl⟩
  | cons op ops ih =>
    intro i kept
    obtain ⟨hstill, still⟩ := List.forall_mem_cons.mp still
    obtain ⟨hkept, kept⟩ := List.forall_mem_cons.mp kept
    obtain ⟨hinner, houtcomes⟩ := ih still (i := i.perform op) kept
    rw [outcomes, stepHistory_cons_of_not_step _ i hstill]
    exact ⟨hinner.trans (perform_inner i hstill hkept), houtcomes⟩

/-- A run with a step is a run without one, the step, and a run after it. -/
theorem exists_first_step {ops : List Operation} (h : 0 < ops.countP Operation.isStep) :
    ∃ before random after, ops = before ++ .step random :: after
      ∧ ∀ op ∈ before, op.isStep = false := by
  induction ops with
  | nil => cases h
  | cons op ops ih =>
    cases hop : op.isStep with
    | true =>
      obtain ⟨random, rfl⟩ := Operation.exists_of_isStep hop
      exact ⟨[], random, ops, rfl, nofun⟩
    | false =>
      rw [List.countP_cons_of_neg (by simp [hop])] at h
      obtain ⟨before, random, after, rfl, still⟩ := ih h
      exact ⟨op :: before, random, after, rfl, List.forall_mem_cons.mpr ⟨hop, still⟩⟩

/-- A run can be cut behind any number of its steps. -/
theorem exists_prefix_of_countP {n : Nat} {ops : List Operation}
    (h : n ≤ ops.countP Operation.isStep) :
    ∃ before after, ops = before ++ after ∧ before.countP Operation.isStep = n := by
  induction n generalizing ops with
  | zero => exact ⟨[], ops, rfl, rfl⟩
  | succ n ih =>
    obtain ⟨quiet, random, rest, rfl, still⟩ := exists_first_step (Nat.lt_of_lt_of_le n.succ_pos h)
    have hquiet : quiet.countP Operation.isStep = 0 :=
      List.countP_eq_zero.mpr fun op hop => by simp [still op hop]
    rw [List.countP_append, hquiet, List.countP_cons_of_pos rfl] at h
    obtain ⟨before, after, rfl, hbefore⟩ := ih (show n ≤ rest.countP _ by omega)
    refine ⟨quiet ++ .step random :: before, after, by simp, ?_⟩
    rw [List.countP_append, hquiet, List.countP_cons_of_pos rfl, hbefore, Nat.zero_add]

/-- **Two runs side by side.** They begin inwardly the same, and make the same number of steps. If
the first never looks outside, they end inwardly the same and have reported the same. -/
theorem run_inner_congr {ops ops' : List Operation}
    (kept : ∀ op ∈ ops, op.replaces = false) (kept' : ∀ op ∈ ops', op.replaces = false)
    (count : ops.countP Operation.isStep = ops'.countP Operation.isStep)
    {i j : Interpreter} (hadvances : i.advancesIndex = j.advancesIndex)
    (hinner : i.state.inner = j.state.inner)
    (inward : ∀ opcode ∈ i.fetches ops, opcode.looksOutside = false) :
    (i.run ops).state.inner = (j.run ops').state.inner ∧ i.outcomes ops = j.outcomes ops' := by
  induction ops generalizing ops' i j with
  | nil =>
    have still : ∀ op ∈ ops', op.isStep = false := by
      intro op hop
      simpa using List.countP_eq_zero.mp count.symm op hop
    obtain ⟨hrest, houtcomes⟩ := run_without_step still (i := j) kept'
    exact ⟨hinner.trans hrest.symm, houtcomes.symm⟩
  | cons op ops ih =>
    obtain ⟨hkept, keptOps⟩ := List.forall_mem_cons.mp kept
    cases hop : op.isStep with
    | false =>
      -- the first run moves alone
      rw [List.countP_cons_of_neg (by simp [hop])] at count
      rw [fetches, stepHistory_cons_of_not_step _ i hop] at inward
      rw [outcomes, stepHistory_cons_of_not_step _ i hop]
      exact ih keptOps kept' count ((perform_advancesIndex i op).trans hadvances)
        ((perform_inner i hop hkept).trans hinner) inward
    | true =>
      -- the second run catches up to its next step, and both take one
      obtain ⟨random, rfl⟩ := Operation.exists_of_isStep hop
      rw [List.countP_cons_of_pos rfl] at count
      have hpos : 0 < ops'.countP Operation.isStep := by omega
      obtain ⟨quiet, random', rest, rfl, still⟩ := exists_first_step hpos
      have hquiet : quiet.countP Operation.isStep = 0 :=
        List.countP_eq_zero.mpr fun op hop => by simp [still op hop]
      rw [List.countP_append, hquiet, List.countP_cons_of_pos rfl] at count
      obtain ⟨keptQuiet, keptRest⟩ := List.forall_mem_append.mp kept'
      obtain ⟨hcaught, hnothing⟩ := run_without_step still (i := j) keptQuiet
      obtain ⟨hfetch, inward⟩ := List.forall_mem_cons.mp inward
      obtain ⟨hstepped, houtcome⟩ :=
        step_inner_congr (hadvances.trans (run_advancesIndex j quiet).symm)
          (hinner.trans hcaught.symm) hfetch random random'
      obtain ⟨hended, houtcomes⟩ :=
        ih keptOps (List.forall_mem_cons.mp keptRest).2 (by omega)
          (i := (i.step random).1) (j := ((j.run quiet).step random').1)
          (hadvances.trans (run_advancesIndex j quiet).symm) hstepped inward
      refine ⟨?_, ?_⟩
      · rw [run_append]
        exact hended
      · rw [outcomes, outcomes, stepHistory, stepHistory, history_append]
        rw [outcomes, stepHistory] at hnothing
        rw [hnothing]
        exact congr (congrArg List.cons houtcome) houtcomes

/-- A run that ends with a jump to itself ends inwardly the same as every run with as many steps or
more. -/
theorem run_inner_of_jump {i : Interpreter} {before longer : List Operation} {random : UInt8}
    (kept : ∀ op ∈ before ++ [.step random], op.replaces = false)
    (keptLonger : ∀ op ∈ longer, op.replaces = false)
    (inward : ∀ opcode ∈ i.fetches (before ++ [.step random]), opcode.looksOutside = false)
    (jumps : (i.run before).state.jumpsToItself)
    (count : (before ++ [Operation.step random]).countP Operation.isStep
      ≤ longer.countP Operation.isStep) :
    (i.run (before ++ [.step random])).state.inner = (i.run longer).state.inner := by
  obtain ⟨start, later, rfl, hstart⟩ := exists_prefix_of_countP count
  obtain ⟨keptStart, keptLater⟩ := List.forall_mem_append.mp keptLonger
  -- up to the jump the runs go side by side, and from there on the longer one stays
  obtain ⟨hinner, -⟩ := run_inner_congr kept keptStart hstart.symm rfl rfl inward
  have hend : i.run (before ++ [.step random]) = ((i.run before).step random).1 :=
    run_append _ _ _
  rw [hend] at hinner ⊢
  have ends : ((i.run before).step random).1.state.jumpsToItself := by
    show ((i.run before).state.step _ random).1.jumpsToItself
    rw [jumps.step]
    exact jumps
  have spins : (((i.run before).step random).1.step 0).1.state
      = ((i.run before).step random).1.state := jumps.step_step _ _ random 0
  have hadvances : ((i.run before).step random).1.advancesIndex = (i.run start).advancesIndex := by
    rw [run_advancesIndex i start]
    exact run_advancesIndex i before
  obtain ⟨hlater, -⟩ :=
    run_of_fixed ends.inward (congrArg State.inner spins) hadvances hinner keptLater
  rw [run_append]
  exact hlater

/-- **Timers and keys make no difference to a program that does not look at them.** Take two runs
from loads of the same program, each with anything in between, and let the first one fetch none of
`FX07`, `EX9E`, `EXA1`, `FX0A` and `CXNN`. If the second made as many steps, the two agree, and step
by step they came to the same. If the first ended with a jump to itself, then all runs agree that
made as many steps or more, the first one's continuations among them. -/
theorem execution_independent_of_outside {i j : Interpreter}
    (hadvances : i.advancesIndex = j.advancesIndex) {source : Source}
    (loads : (Operation.load source).replaces = true) {ops ops' : List Operation}
    (kept : ∀ op ∈ ops, op.replaces = false) (kept' : ∀ op ∈ ops', op.replaces = false)
    (inward : ∀ opcode ∈ (i.perform (.load source)).fetches ops, opcode.looksOutside = false) :
    let first := i.perform (.load source)
    let second := j.perform (.load source)
    (ops.countP Operation.isStep = ops'.countP Operation.isStep →
        (first.run ops).state.Alike (second.run ops').state
          ∧ first.outcomes ops = second.outcomes ops')
      ∧ ∀ before random, ops = before ++ [.step random] →
          (first.run before).state.jumpsToItself →
          ∀ longer, (∀ op ∈ longer, op.replaces = false) →
          ops.countP Operation.isStep ≤ longer.countP Operation.isStep →
          ops.countP Operation.isStep ≤ ops'.countP Operation.isStep →
          (first.run longer).state.Alike (second.run ops').state := by
  intro first second
  have same : second = first := (perform_load_congr hadvances loads).symm
  rw [same]
  refine ⟨fun count => ?_, ?_⟩
  · obtain ⟨hinner, houtcomes⟩ := run_inner_congr kept kept' count rfl rfl inward
    exact ⟨.of_inner hinner, houtcomes⟩
  · rintro before random rfl jumps longer keptLonger count count'
    have hlonger := run_inner_of_jump kept keptLonger inward jumps count
    have hother := run_inner_of_jump kept kept' inward jumps count'
    exact .of_inner (hlonger.symm.trans hother)

/-- Sets the delay timer, draws a glyph in a subroutine, and jumps to itself from then on. -/
def glyphThenSpin : Source :=
  ⟨[0x6A, 0x07, 0xFA, 0x15, 0x22, 0x08, 0x12, 0x06, 0xD0, 0x05, 0x00, 0xEE], none⟩

/-- Five steps with much going on between them. -/
def lively : List Operation :=
  [.step 0, .tick, .key (.press 3) 5, .step 0, .tick, .step 9, .snapshot, .step 0, .expire 10 20,
    .step 0, .load ⟨[], some "unreadable"⟩]

theorem execution_independent_of_outside_glyphThenSpin :
    let i := (new false).perform (.load glyphThenSpin)
    i.outcomes (lively ++ [.step 0]) = i.outcomes (List.replicate 6 (.step 0))
      ∧ (i.run (lively ++ [.step 0, .tick, .step 0])).state.Alike
          (i.run (List.replicate 9 (.step 0))).state := by
  intro i
  have loads : (Operation.load glyphThenSpin).replaces = true := by decide +kernel
  obtain ⟨kept, keptLonger⟩ :
      (∀ op ∈ lively ++ [.step 0], op.replaces = false)
        ∧ ∀ op ∈ lively ++ [.step 0, .tick, .step 0], op.replaces = false := by
    decide +kernel
  have steps (n : Nat) : ∀ op ∈ List.replicate n (Operation.step 0), op.replaces = false := by
    intro op hop
    rw [List.eq_of_mem_replicate hop]
    rfl
  obtain ⟨none, jumps⟩ :
      (i.fetches (lively ++ [.step 0])).any Opcode.looksOutside = false
        ∧ (i.run lively).state.jumpsToItself := by
    decide +kernel
  have inward : ∀ opcode ∈ i.fetches (lively ++ [.step 0]), opcode.looksOutside = false :=
    fun opcode h => Bool.eq_false_iff.mpr (List.any_eq_false.mp none opcode h)
  obtain ⟨side, -⟩ := execution_independent_of_outside (i := new false) (j := new false) rfl loads
    kept (steps 6) inward
  obtain ⟨-, after⟩ := execution_independent_of_outside (i := new false) (j := new false) rfl loads
    kept (steps 9) inward
  exact ⟨(side rfl).2, after lively 0 rfl jumps _ keptLonger (by decide) (by decide)⟩

end Interpreter

end Chip8
