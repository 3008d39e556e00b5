import Mathlib.Data.List.DropRight
import Chip8.Proofs.Interpreter.Waiting

/-!
# The timers as history

A timer is set by one opcode and moved by ticks, and nothing says how steps and ticks are mixed.
What it holds is settled by its history all the same: the value it was set to last, less the ticks
since, and not below zero.

The two timers are told apart by the low byte of the opcode that sets them, and what is said of one
holds of the other for the same reasons (`State.Timer`).
-/

set_option autoImplicit false

namespace Chip8

/-! ## Histories of a timer -/

/-- What happens to a timer. -/
inductive TimerEvent where
  | set (value : UInt8)
  | tick
  deriving DecidableEq

namespace TimerEvent

def value? : TimerEvent → Option UInt8
  | set value => some value
  | tick => none

/-- What the timer was set to last; 0 if it never was. -/
def lastSet (events : List TimerEvent) : UInt8 := (events.filterMap value?).getLast?.getD 0

/-- The ticks since the timer was last set, or since the beginning. -/
def ticksSince (events : List TimerEvent) : Nat := (events.rtakeWhile (· = tick)).length

/-- What is left of that value after so many ticks; a timer stops at zero. -/
def remaining (events : List TimerEvent) : Int :=
  max 0 ((lastSet events).toNat - ticksSince events)

variable (events : List TimerEvent)

@[simp] theorem lastSet_concat_set (value : UInt8) : lastSet (events ++ [set value]) = value := by
  simp [lastSet, value?]

@[simp] theorem lastSet_concat_tick : lastSet (events ++ [tick]) = lastSet events := by
  simp [lastSet, value?]

@[simp] theorem ticksSince_concat_set (value : UInt8) : ticksSince (events ++ [set value]) = 0 := by
  simp [ticksSince]

@[simp] theorem ticksSince_concat_tick : ticksSince (events ++ [tick]) = ticksSince events + 1 := by
  simp [ticksSince]

theorem remaining_eq :
    remaining events = ((lastSet events).toNat - ticksSince events : Nat) := by
  unfold remaining
  omega

end TimerEvent

/-! ## One timer -/

namespace State

/-- A timer that is set by the opcode with this low byte, and moved by ticks. -/
structure Timer (low : UInt8) (timer : State → UInt8) : Prop where
  initial (memory : Memory) : timer { initial with memory := memory } = 0
  tick (s : State) : timer s.tickTimers = timer s - min (timer s) 1
  set (s : State) (advances : Bool) (random : UInt8) :
    s.fetch.Transfer low → timer (s.step advances random).1 = s.registers.get s.fetch.x
  kept (s : State) (advances : Bool) (random : UInt8) :
    ¬ s.fetch.Transfer low → timer (s.step advances random).1 = timer s
  /-- keys and marks are no matter of a timer -/
  aside (s : State) (registers : Registers) (keypad : Keypad) :
    timer { s with registers := registers, keypad := keypad } = timer s

theorem delayTimer_timer : Timer 0x15 delayTimer where
  initial _ := rfl
  tick _ := rfl
  set s advances random transfer := by
    have decoded : Instruction.decode s.fetch = .copyRegisterToDelay s.fetch.x :=
      Instruction.decode_of_spelled ⟨transfer, rfl⟩
    rw [step_of_execute (t := { s.noted with
      pc := after s.pc, delayTimer := s.registers.get s.fetch.x })]
    · rfl
    · rw [decoded]
      rfl
  kept s advances random other := (s.step_footprint advances random).delayTimer.resolve_right other
  aside _ _ _ := rfl

theorem soundTimer_timer : Timer 0x18 soundTimer where
  initial _ := rfl
  tick _ := rfl
  set s advances random transfer := by
    have decoded : Instruction.decode s.fetch = .copyRegisterToSound s.fetch.x :=
      Instruction.decode_of_spelled ⟨transfer, rfl⟩
    rw [step_of_execute (t := { s.noted with
      pc := after s.pc, soundTimer := s.registers.get s.fetch.x })]
    · rfl
    · rw [decoded]
      rfl
  kept s advances random other := (s.step_footprint advances random).soundTimer.resolve_right other
  aside _ _ _ := rfl

theorem step_copyDelay {s : State} (transfer : s.fetch.Transfer 0x07) (advances : Bool)
    (random : UInt8) :
    s.step advances random
      = (({ s.noted with pc := after s.pc }.setRegister s.fetch.x s.delayTimer).settled,
          .ok ⟨⟨s.pc, s.fetch⟩, s.redraw, true⟩) := by
  have decoded : Instruction.decode s.fetch = .copyDelayToRegister s.fetch.x :=
    Instruction.decode_of_spelled ⟨transfer, rfl⟩
  refine step_of_execute ?_
  rw [decoded]
  rfl

end State

/-! ## Runs -/

namespace Interpreter

open TimerEvent

/-- What an operation does to the timer that is set by the opcode with this low byte. -/
def timerEvent (low : UInt8) (i : Interpreter) : Operation → List TimerEvent
  | .step _ =>
    if i.state.fetch.Transfer low then [.set (i.state.registers.get i.state.fetch.x)] else []
  | .tick => [.tick]
  | _ => []

/-- What happens to the timer in a run. -/
def timerEvents (low : UInt8) (i : Interpreter) (ops : List Operation) : List TimerEvent :=
  i.history (timerEvent low) ops

theorem timerEvents_concat (low : UInt8) (i : Interpreter) (ops : List Operation)
    (op : Operation) :
    i.timerEvents low (ops ++ [op]) = i.timerEvents low ops ++ (i.run ops).timerEvent low op := by
  simp [timerEvents, history_append, history]

variable {low : UInt8} {timer : State → UInt8} {i : Interpreter} {ops : List Operation}

/-- Keys and snapshots do nothing to a timer, and neither does a load that fails. -/
theorem perform_aside (h : State.Timer low timer) {op : Operation} (quiet : op.isStep = false)
    (still : op.isTick = false) (kept : op.replaces = false) :
    timer (i.perform op).state = timer i.state ∧ i.timerEvent low op = [] := by
  refine ⟨?_, ?_⟩
  · cases op with
    | step => cases quiet
    | tick => cases still
    | load source => rw [perform_failed_load i kept]
    | key | expire | clearKeys | snapshot => exact h.aside _ _ _
  · cases op with
    | step => cases quiet
    | tick => cases still
    | load | key | expire | clearKeys | snapshot => rfl

/-- **A timer is its history.** -/
theorem run_timer (h : State.Timer low timer) (fresh : timer i.state = 0)
    (kept : ∀ op ∈ ops, op.replaces = false) :
    ((timer (i.run ops).state).toNat : Int) = remaining (i.timerEvents low ops) := by
  rw [remaining_eq, Int.natCast_inj]
  -- histories are read from their end, so the run is taken apart there
  induction ops using List.reverseRecOn with
  | nil =>
    rw [run_nil, fresh]
    rfl
  | append_singleton ops op ih =>
    obtain ⟨keptOps, keptOp⟩ := List.forall_mem_append.mp kept
    have ih := ih keptOps
    rw [run_append, run_cons, run_nil, timerEvents_concat]
    generalize i.run ops = now at ih ⊢
    cases op with
    | step random =>
      show (timer (now.state.step now.advancesIndex random).1).toNat = _
      by_cases sets : now.state.fetch.Transfer low
      · simp [h.set _ _ _ sets, timerEvent, sets]
      · simpa [h.kept _ _ _ sets, timerEvent, sets] using ih
    | tick =>
      show (timer now.state.tickTimers).toNat = _
      simp only [timerEvent, lastSet_concat_tick, ticksSince_concat_tick]
      rw [h.tick, State.toNat_countDown, ih, Nat.sub_sub]
    | load | key | expire | clearKeys | snapshot =>
      -- anything else leaves the timer and its history alone
      obtain ⟨same, nothing⟩ := perform_aside h (i := now) rfl rfl (keptOp _ List.mem_cons_self)
      rw [same, nothing, List.append_nil]
      exact ih

/-- **Timers as history.** Take any run since a program was loaded: steps, successful or not, and
ticks in any order, and keys, snapshots and failed loads among them. The delay timer is what the
last `FX15` set it to, 0 if there was none, less the ticks since, or zero if there were more; the
sound timer is the same with `FX18`, and the machine beeps if and only if that is positive. From
there a tick takes one from each timer that is not zero and changes nothing else, and an `FX07`
succeeds and puts this value of the delay timer into `VX`. -/
theorem timers_as_history (i : Interpreter) (source : Source) (ops : List Operation)
    (loads : (Operation.load source).replaces = true)
    (kept : ∀ op ∈ ops, op.replaces = false) :
    let start := i.perform (.load source)
    let now := start.run ops
    let s := now.state
    let delay := remaining (start.timerEvents 0x15 ops)
    let sound := remaining (start.timerEvents 0x18 ops)
    ((s.delayTimer.toNat : Int) = delay ∧ (s.soundTimer.toNat : Int) = sound)
      ∧ (s.soundActive = true ↔ 0 < sound)
      ∧ (let t := (now.perform .tick).state
        t = { s with delayTimer := t.delayTimer, soundTimer := t.soundTimer }
          ∧ t.delayTimer.toNat = s.delayTimer.toNat - 1
          ∧ t.soundTimer.toNat = s.soundTimer.toNat - 1)
      ∧ (s.fetch.Transfer 0x07 → ∀ random,
        (((now.step random).1.state.registers.get s.fetch.x).toNat : Int) = delay
          ∧ ∃ done, (now.step random).2 = .ok done) := by
  intro start now s delay sound
  obtain ⟨memory, fresh⟩ := i.perform_load_state loads
  have delayFresh : start.state.delayTimer = 0 := by
    show (i.perform (.load source)).state.delayTimer = 0
    rw [fresh]
    exact State.delayTimer_timer.initial memory
  have soundFresh : start.state.soundTimer = 0 := by
    show (i.perform (.load source)).state.soundTimer = 0
    rw [fresh]
    exact State.soundTimer_timer.initial memory
  -- both timers run by the same laws, each with the opcode that sets it
  have delayed : (s.delayTimer.toNat : Int) = delay :=
    run_timer State.delayTimer_timer delayFresh kept
  have sounding : (s.soundTimer.toNat : Int) = sound :=
    run_timer State.soundTimer_timer soundFresh kept
  refine ⟨⟨delayed, sounding⟩, ?_, ⟨rfl, ?_, ?_⟩, fun transfer random => ?_⟩
  · rw [← sounding, State.soundActive, decide_eq_true_iff, ← UInt8.toNat_inj.ne]
    show s.soundTimer.toNat ≠ 0 ↔ _
    omega
  · exact State.toNat_countDown s.delayTimer
  · exact State.toNat_countDown s.soundTimer
  · have reads := State.step_copyDelay transfer now.advancesIndex random
    obtain ⟨state, result⟩ := Prod.ext_iff.mp reads
    refine ⟨?_, _, result⟩
    have registers : (now.step random).1.state.registers
        = (s.registers.write s.fetch.x s.delayTimer).reported := congrArg State.registers state
    rw [registers, ← delayed]
    show (((s.registers.write s.fetch.x s.delayTimer).get s.fetch.x).toNat : Int) = _
    rw [Registers.get_write_self]

/-- Sets both timers to five, sets the delay timer to nine later on, and reads it. -/
def resets : Source :=
  ⟨[0x60, 0x05, 0xF0, 0x15, 0xF0, 0x18, 0x61, 0x09, 0xF1, 0x15, 0xF2, 0x07], none⟩

/-- The delay timer has come down to two when it is set again, the sound timer runs out, and then
there is one more tick. -/
theorem timers_as_history_setTwice :
    let ops : List Operation := [.step 0, .step 0, .step 0, .tick, .tick, .snapshot, .tick, .step 0,
      .step 0, .load ⟨[], some "unreadable"⟩, .tick, .key (.press 3) 8, .tick, .tick]
    let start := (new false).perform (.load resets)
    let now := start.run ops
    (start.timerEvents 0x15 ops
          = [.set 5, .tick, .tick, .tick, .set 9, .tick, .tick, .tick]
        ∧ start.timerEvents 0x18 ops
          = [.set 5, .tick, .tick, .tick, .tick, .tick, .tick])
      ∧ (now.state.delayTimer.toNat = 6 ∧ now.state.soundTimer.toNat = 0)
      ∧ now.state.soundActive = false
      ∧ ((now.step 0).1.state.registers.get 2).toNat = 6 := by
  intro ops start now
  obtain ⟨⟨delayed, sounding⟩, beeps, -, reads⟩ :=
    timers_as_history (new false) resets ops (by decide +kernel) (by decide +kernel)
  have delays : start.timerEvents 0x15 ops
      = [.set 5, .tick, .tick, .tick, .set 9, .tick, .tick, .tick] := by decide +kernel
  have sounds : start.timerEvents 0x18 ops
      = [.set 5, .tick, .tick, .tick, .tick, .tick, .tick] := by decide +kernel
  have six : remaining (start.timerEvents 0x15 ops) = 6 := by
    rw [delays]
    decide +kernel
  have none : remaining (start.timerEvents 0x18 ops) = 0 := by
    rw [sounds]
    decide +kernel
  have fetched : now.state.fetch = 0xF207 := by decide +kernel
  obtain ⟨read, -⟩ := reads (by rw [fetched]; decide) 0
  refine ⟨⟨delays, sounds⟩, ⟨?_, ?_⟩, ?_, ?_⟩
  · exact Int.natCast_inj.mp (delayed.trans six)
  · exact Int.natCast_inj.mp (sounding.trans none)
  · rw [Bool.eq_false_iff]
    intro on
    have positive := beeps.mp on
    rw [none] at positive
    exact absurd positive (Int.lt_irrefl 0)
  · rw [fetched] at read
    exact Int.natCast_inj.mp (read.trans six)

end Interpreter

end Chip8
