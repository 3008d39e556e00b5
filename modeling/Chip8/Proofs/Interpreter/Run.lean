import Chip8.Snapshot
import Chip8.Interpreter

/-!
# Runs of an interpreter

An interpreter is driven from outside by seven kinds of operation: programs are loaded,
instructions executed, timers ticked, keys pressed, expired and cleared, and snapshots taken.
Nothing says in which order, so a *run* is any list of operations, and a statement about every
reachable state is a statement about `Interpreter.run`.

What an operation reports to its caller is left out of a run. It is a function of the state before
the operation (`Interpreter.load`, `Interpreter.step`, and so on), so a statement about every
report of a run is one about every state of it. Where the reports of a run are compared as a whole,
they are a `history` of it; all of them together are the `answers` of the run.

A load that succeeds cuts a run in two, since it leaves nothing of what was there before. Most of
what is kept from one operation to the next is kept between two such loads only
(`run_induction_unreplaced`).
-/

set_option autoImplicit false

namespace Chip8

/-- Something that is done to an interpreter. -/
inductive Operation where
  | load (source : Source)
  /-- one instruction, with the random byte that `CXNN` would draw -/
  | step (random : UInt8)
  | tick
  | key (event : KeyEvent) (now : Nat)
  | expire (window now : Nat)
  | clearKeys
  | snapshot

namespace Operation

def isStep : Operation → Bool
  | step _ => true
  | _ => false

def isTick : Operation → Bool
  | tick => true
  | _ => false

/-- A load that succeeds. Nothing of what was there before is left. -/
def replaces : Operation → Bool
  | load source => (State.load source).isOk
  | _ => false

variable {op : Operation}

theorem exists_of_isStep (h : op.isStep = true) : ∃ random, op = step random := by
  cases op with
  | step random => exact ⟨random, rfl⟩
  | load | tick | key | expire | clearKeys | snapshot => cases h

theorem exists_of_replaces (h : op.replaces = true) : ∃ source, op = load source := by
  cases op with
  | load source => exact ⟨source, rfl⟩
  | step | tick | key | expire | clearKeys | snapshot => cases h

end Operation

namespace Interpreter

/-- The interpreter after one operation. -/
def perform (i : Interpreter) : Operation → Interpreter
  | .load source => (i.load source).1
  | .step random => (i.step random).1
  | .tick => { i with state := i.state.tickTimers }
  | .key event now => { i with state := (i.state.applyKey event now).1 }
  | .expire window now => { i with state := (i.state.expireKeys window now).1 }
  | .clearKeys => { i with state := i.state.clearKeys.1 }
  | .snapshot => { i with state := i.state.snapshot.2 }

/-- The interpreter after a list of operations, the first one first. -/
def run (i : Interpreter) (ops : List Operation) : Interpreter := ops.foldl perform i

@[simp] theorem run_nil (i : Interpreter) : i.run [] = i := rfl

@[simp] theorem run_cons (i : Interpreter) (op : Operation) (ops : List Operation) :
    i.run (op :: ops) = (i.perform op).run ops := rfl

theorem run_append (i : Interpreter) (before after : List Operation) :
    i.run (before ++ after) = (i.run before).run after := List.foldl_append

/-- **What every operation keeps, every run keeps.** -/
theorem run_induction {P : Interpreter → Prop}
    (keeps : ∀ (i : Interpreter) (op : Operation), P i → P (i.perform op)) :
    ∀ (ops : List Operation) {i : Interpreter}, P i → P (i.run ops) := by
  intro ops
  induction ops with
  | nil => intro i h; exact h
  | cons op ops ih => intro i h; exact ih (keeps i op h)

/-- The same for runs that no load interrupts: failed loads are among their operations, successful
ones are not. -/
theorem run_induction_unreplaced {P : Interpreter → Prop}
    (keeps : ∀ (i : Interpreter) (op : Operation), op.replaces = false → P i → P (i.perform op)) :
    ∀ (ops : List Operation) {i : Interpreter}, (∀ op ∈ ops, op.replaces = false) → P i →
      P (i.run ops) := by
  intro ops
  induction ops with
  | nil => intro i _ h; exact h
  | cons op ops ih =>
    intro i hops h
    obtain ⟨hop, hops⟩ := List.forall_mem_cons.mp hops
    exact ih hops (keeps i op hop h)

/-- A load that fails changes nothing. -/
theorem perform_failed_load (i : Interpreter) {source : Source}
    (h : (Operation.load source).replaces = false) : i.perform (.load source) = i := by
  have failed : (State.load source).isOk = false := h
  show (i.load source).1 = i
  unfold load
  split
  · next hload => rw [hload] at failed; cases failed
  · rfl

/-- What `note` makes of every operation of a run, in the order of the run. -/
def history {α : Type} (note : Interpreter → Operation → List α) (i : Interpreter) :
    List Operation → List α
  | [] => []
  | op :: ops => note i op ++ (i.perform op).history note ops

theorem history_append {α : Type} (note : Interpreter → Operation → List α) (i : Interpreter)
    (before after : List Operation) :
    i.history note (before ++ after)
      = i.history note before ++ (i.run before).history note after := by
  induction before generalizing i with
  | nil => rfl
  | cons op before ih => rw [List.cons_append, history, ih, ← List.append_assoc]; rfl

/-- What an operation reports to whoever asked for it. -/
inductive Answer where
  | loaded (result : Except Error Nat)
  | stepped (result : Except StackFault Executed)
  | ticked
  /-- whether a key changed, or whether one was released -/
  | keys (changed : Bool)
  | shown (view : Snapshot)

def answer (i : Interpreter) : Operation → Answer
  | .load source => .loaded (i.load source).2
  | .step random => .stepped (i.step random).2
  | .tick => .ticked
  | .key event now => .keys (i.state.applyKey event now).2
  | .expire window now => .keys (i.state.expireKeys window now).2
  | .clearKeys => .keys i.state.clearKeys.2
  | .snapshot => .shown i.state.snapshot.1

/-- All that is learned from a run, in order. -/
def answers (i : Interpreter) (ops : List Operation) : List Answer :=
  i.history (fun i op => [i.answer op]) ops

/-- What a load reports does not depend on what was there before. -/
theorem load_result_congr (i j : Interpreter) (source : Source) :
    (i.load source).2 = (j.load source).2 := by
  unfold load
  split <;> rfl

/-- What `note` makes of every step of a run, with the byte it would draw. -/
def stepHistory {α : Type} (note : Interpreter → UInt8 → α) (i : Interpreter)
    (ops : List Operation) : List α :=
  i.history (fun i op => match op with | .step random => [note i random] | _ => []) ops

theorem stepHistory_cons_of_not_step {α : Type} (note : Interpreter → UInt8 → α)
    (i : Interpreter) {op : Operation} (h : op.isStep = false) (ops : List Operation) :
    i.stepHistory note (op :: ops) = (i.perform op).stepHistory note ops := by
  cases op with
  | step => cases h
  | load | tick | key | expire | clearKeys | snapshot => rfl

/-- A load that succeeds leaves nothing of the interpreter but how it treats the index register. -/
theorem perform_load_congr {i j : Interpreter} (h : i.advancesIndex = j.advancesIndex)
    {source : Source} (loads : (Operation.load source).replaces = true) :
    i.perform (.load source) = j.perform (.load source) := by
  have succeeds : (State.load source).isOk = true := loads
  show (i.load source).1 = (j.load source).1
  unfold load
  split
  · rw [h]
  · next hload => rw [hload] at succeeds; cases succeeds

/-- A program finds everything but its memory as it is at first. -/
theorem perform_load_state (i : Interpreter) {source : Source}
    (loads : (Operation.load source).replaces = true) :
    ∃ memory, (i.perform (.load source)).state = { State.initial with memory := memory } := by
  have succeeds : (State.load source).isOk = true := loads
  show ∃ memory, (i.load source).1.state = _
  unfold load
  unfold State.load at succeeds ⊢
  cases hmemory : State.initial.memory.loadProgram source with
  | error e => rw [hmemory] at succeeds; cases succeeds
  | ok loaded => exact ⟨loaded.2, rfl⟩

/-- No operation turns the index register's treatment around. -/
theorem perform_advancesIndex (i : Interpreter) (op : Operation) :
    (i.perform op).advancesIndex = i.advancesIndex := by
  cases op with
  | load source =>
    show (i.load source).1.advancesIndex = i.advancesIndex
    unfold load
    split <;> rfl
  | step | tick | key | expire | clearKeys | snapshot => rfl

theorem run_advancesIndex (i : Interpreter) (ops : List Operation) :
    (i.run ops).advancesIndex = i.advancesIndex := by
  refine run_induction (P := fun j => j.advancesIndex = i.advancesIndex) ?_ ops rfl
  intro j op h
  rw [perform_advancesIndex, h]

end Interpreter

end Chip8
