import Chip8.Proofs.Interpreter.Marks
import Chip8.Proofs.Interpreter.Soundness
import Chip8.Proofs.Memory.HexDump

/-!
# Looking on

Whoever shows a machine takes snapshots of it, and a snapshot takes the marks off the registers. This
file says that it takes nothing else, and that what it shows is true.

The first is about two runs, one of which has snapshots put in at any places (`Moment`). They go
through the same states, marks apart, and what they are asked is answered in the same way, but that a
snapshot of the one may show other marks than that of the other (`run_glanced`). No instruction looks
at marks, so whatever difference a snapshot makes stays where it is.

The second is about one snapshot (`Snapshot.Faithful`). The one thing that it says of its own accord is
which row of the hex dump shows the program counter. The row exists and holds the byte that comes
next, since the program counter of a machine that was loaded and run never leaves memory.
-/

set_option autoImplicit false

namespace Chip8

/-! ## What a snapshot shows -/

/-- What a snapshot shows is what there is, and the row it names for the program counter is the row
of its dump where the byte at the program counter stands. -/
structure Snapshot.Faithful (v : Snapshot) (s : State) : Prop where
  pc : v.pc = s.pc
  index : v.index = s.index
  registers : v.registers = s.registers.values
  stack : v.stack = s.stack.slots
  depth : v.depth = s.stack.depth
  memory : v.memory = s.memory
  frame : v.frame = s.frame
  delayTimer : v.delayTimer = s.delayTimer
  soundTimer : v.soundTimer = s.soundTimer
  keys : v.keys = s.keypad.keys
  opcode : v.opcode = s.opcode
  last : v.last = s.last
  soundActive : v.soundActive = true ↔ s.soundTimer ≠ 0
  pcRow : v.pcRow = s.pc.toNat / 16
  pcRow_lt : v.pcRow < 256
  shown : ∃ text, v.memoryRows[v.pcRow]? = some text
    ∧ HexDump.label text = '0' :: 'x' :: Hex.padded 4 (16 * v.pcRow)
    ∧ HexDump.cell text (s.pc.toNat % 16) = Hex.padded 2 (s.memory.get s.pc).toNat

theorem State.InBounds.view_faithful {s : State} (h : s.InBounds) : s.view.Faithful s := by
  have low : s.pc.toNat < 4096 := by
    have := UInt16.le_iff_toNat_le.mp h.pc_le
    exact Nat.lt_succ_of_le this
  have address : (Address.ofWord s.pc).val = s.pc.toNat := Nat.mod_eq_of_lt low
  have row : s.view.pcRow = s.pc.toNat / 16 := congrArg (· / 16) address
  have length : s.memory.bytes.toList.length = 4096 := Vector.length_toList
  have inside : s.pc.toNat < s.memory.bytes.toList.length := by rwa [length]
  have byte : s.memory.bytes.toList[s.pc.toNat] = s.memory.get s.pc := by
    rw [Vector.getElem_toList, Memory.get_eq_getElem]
    show s.memory.bytes[s.pc.toNat] = s.memory.bytes[(Address.ofWord s.pc).val]
    simp only [address]
  obtain ⟨text, found, label, cell⟩ := HexDump.byte_shown inside (by omega)
  refine ⟨rfl, rfl, rfl, rfl, rfl, rfl, rfl, rfl, rfl, rfl, rfl, rfl, decide_eq_true_iff, row, ?_,
    text, ?_, ?_, ?_⟩
  · rw [row]
    omega
  · rw [row]
    exact found
  · rw [row]
    exact label
  · rw [cell, byte]

/-! ## Snapshots that are put in -/

/-- What is done next in a run that somebody looks on at: an operation of the run, or a snapshot that
was put in. -/
inductive Moment where
  | doing (op : Operation)
  | glance

namespace Moment

/-- What is done to the interpreter. -/
def operation : Moment → Operation
  | doing op => op
  | glance => .snapshot

/-- What would be done if nobody looked on. -/
def own? : Moment → Option Operation
  | doing op => some op
  | glance => none

end Moment

namespace Interpreter

/-- The answer but for the marks, if a snapshot is what is answered. -/
def Answer.unmarked : Answer → Answer
  | .shown view => .shown { view with changed := Vector.replicate 16 false }
  | answer => answer

/-- The answers to the operations of a run that somebody looks on at, without what the snapshots that
were put in show. -/
def ownAnswers (i : Interpreter) : List Moment → List Answer
  | [] => []
  | .doing op :: moments => i.answer op :: (i.perform op).ownAnswers moments
  | .glance :: moments => (i.perform .snapshot).ownAnswers moments

variable {i j : Interpreter}

/-- **What is done to two interpreters that agree but for marks** leaves them so, and is answered the
same. -/
theorem perform_seen (hadvances : i.advancesIndex = j.advancesIndex)
    (h : i.state.seen = j.state.seen) (op : Operation) :
    (i.perform op).state.seen = (j.perform op).state.seen
      ∧ (i.answer op).unmarked = (j.answer op).unmarked := by
  have hkeypad : i.state.seen.keypad = j.state.seen.keypad := congrArg State.keypad h
  cases op with
  | load source =>
    refine ⟨?_, congrArg Answer.loaded (load_result_congr i j source)⟩
    -- a load makes a new state or, if it fails, none
    cases loads : (Operation.load source).replaces with
    | true => rw [perform_load_congr hadvances loads]
    | false => rw [perform_failed_load i loads, perform_failed_load j loads, h]
  | step random =>
    obtain ⟨s, advances⟩ := i
    obtain ⟨t, _⟩ := j
    cases hadvances
    obtain ⟨stepped, reported⟩ := State.step_seen_congr h advances random
    exact ⟨stepped, congrArg Answer.stepped reported⟩
  | tick => exact ⟨congrArg State.tickTimers h, rfl⟩
  | key event now =>
    refine ⟨congrArg (fun s => (s.applyKey event now).1) h, ?_⟩
    exact congrArg (fun k => Answer.keys (k.apply event now).2) hkeypad
  | expire window now =>
    refine ⟨congrArg (fun s => (s.expireKeys window now).1) h, ?_⟩
    exact congrArg (fun k => Answer.keys (k.expire window now).2) hkeypad
  | clearKeys =>
    refine ⟨congrArg (fun s => s.clearKeys.1) h, ?_⟩
    exact congrArg (fun k => Answer.keys k.clear.2) hkeypad
  | snapshot =>
    refine ⟨h, ?_⟩
    show Answer.shown i.state.seen.view = .shown j.state.seen.view
    rw [h]

theorem run_glanced (hadvances : i.advancesIndex = j.advancesIndex)
    (h : i.state.seen = j.state.seen) (moments : List Moment) :
    (i.run (moments.map Moment.operation)).state.seen
        = (j.run (moments.filterMap Moment.own?)).state.seen
      ∧ (i.ownAnswers moments).map Answer.unmarked
        = (j.answers (moments.filterMap Moment.own?)).map Answer.unmarked := by
  induction moments generalizing i j with
  | nil => exact ⟨h, rfl⟩
  | cons moment moments ih =>
    cases moment with
    | doing op =>
      obtain ⟨performed, answered⟩ := perform_seen hadvances h op
      have advances : (i.perform op).advancesIndex = (j.perform op).advancesIndex := by
        rw [perform_advancesIndex, perform_advancesIndex, hadvances]
      obtain ⟨ended, answers⟩ := ih advances performed
      exact ⟨ended, List.cons_eq_cons.mpr ⟨answered, answers⟩⟩
    | glance =>
      -- only the one run goes on, and only in its marks
      exact ih (i := i.perform .snapshot) hadvances h

/-- **Looking on changes nothing but marks, and shows what is there.** Take any run from the start,
and the same run with snapshots put in at any places. Whatever was done up to some point, the two
states differ in the marks of the registers at most; every operation of the run is answered in the
same way in both, the same steps fail, and snapshots show the same, marks apart. And a snapshot that
is taken then shows the state as it is, with the byte at the program counter where it says. -/
theorem looking_on_is_harmless (advances : Bool) (moments : List Moment) :
    let watched := (new advances).run (moments.map Moment.operation)
    let alone := (new advances).run (moments.filterMap Moment.own?)
    ({ watched.state with registers := watched.state.registers.unmarked }
          = { alone.state with registers := alone.state.registers.unmarked }
        ∧ watched.advancesIndex = alone.advancesIndex)
      ∧ ((new advances).ownAnswers moments).map Answer.unmarked
        = ((new advances).answers (moments.filterMap Moment.own?)).map Answer.unmarked
      ∧ watched.state.snapshot.1.Faithful watched.state := by
  intro watched alone
  obtain ⟨ended, answered⟩ := run_glanced (i := new advances) rfl rfl moments
  have sound : watched.state.Sound := run_sound advances _
  refine ⟨⟨ended, ?_⟩, answered, sound.toInBounds.view_faithful⟩
  rw [run_advancesIndex, run_advancesIndex]

end Interpreter

end Chip8
