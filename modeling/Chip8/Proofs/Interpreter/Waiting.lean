import Chip8.Proofs.Instruction.Spelling
import Chip8.Proofs.Interpreter.ControlFlow
import Chip8.Proofs.Interpreter.Frame
import Chip8.Proofs.Interpreter.Independence

/-!
# Waiting for a key

`FX0A` waits by going back to itself: the program counter moves past it and is wound back, and the
next step finds the machine as this one found it. So a wait of any length leaves nothing behind but
the time that has passed (`Waited`, `run_waits`), and it is over with the first step that finds a
key down, which takes the lowest of them.

What counts is the keypad at the moment of a step. A key that goes down and comes up again between
two steps is not seen; one that is still down when the program comes to the `FX0A` is.
-/

set_option autoImplicit false

namespace Chip8

/-- The lowest key that is down is down, and all keys below it are up. -/
theorem Keypad.firstDown_eq_some {k : Keypad} {key : Fin 16} (h : k.firstDown = some key) :
    k.keys.get key = true ∧ ∀ lower < key, k.keys.get lower = false := by
  obtain ⟨down, place, inside, found, before⟩ := List.find?_eq_some_iff_getElem.mp h
  refine ⟨down, fun lower below => ?_⟩
  have earlier : lower.val < place := by
    rw [← found, List.getElem_finRange] at below
    exact below
  have up := before lower.val earlier
  rw [List.getElem_finRange] at up
  simpa using up

theorem Instruction.decode_of_awaits {op : Opcode} (awaits : op.Transfer 0x0A) :
    decode op = .waitForKey op.x :=
  decode_of_spelled ⟨awaits, rfl⟩

namespace State

/-! ## One step -/

/-- What is left of `s` in `t` after a wait of that many ticks. -/
structure Waited (ticks : Nat) (s t : State) : Prop where
  memory : t.memory = s.memory
  pc : t.pc = s.pc
  values : t.registers.values = s.registers.values
  index : t.index = s.index
  stack : t.stack = s.stack
  frame : t.frame = s.frame
  delayTimer : t.delayTimer.toNat = s.delayTimer.toNat - ticks
  soundTimer : t.soundTimer.toNat = s.soundTimer.toNat - ticks

variable {s t u : State}

theorem Waited.refl (s : State) : Waited 0 s s := ⟨rfl, rfl, rfl, rfl, rfl, rfl, rfl, rfl⟩

theorem Waited.trans {m n : Nat} (first : Waited m s t) (second : Waited n t u) :
    Waited (m + n) s u where
  memory := second.memory.trans first.memory
  pc := second.pc.trans first.pc
  values := second.values.trans first.values
  index := second.index.trans first.index
  stack := second.stack.trans first.stack
  frame := second.frame.trans first.frame
  delayTimer := by rw [second.delayTimer, first.delayTimer, Nat.sub_sub]
  soundTimer := by rw [second.soundTimer, first.soundTimer, Nat.sub_sub]

theorem Waited.fetch {ticks : Nat} (h : Waited ticks s t) : t.fetch = s.fetch := by
  unfold State.fetch
  rw [h.memory, h.pc]

theorem toNat_countDown (timer : UInt8) : (timer - min timer 1).toNat = timer.toNat - 1 := by
  have least : min timer 1 = if timer ≤ 1 then timer else 1 := rfl
  rw [least]
  split
  · next small =>
    have : timer.toNat ≤ 1 := UInt8.le_iff_toNat_le.mp small
    rw [UInt8.sub_self]
    show 0 = timer.toNat - 1
    omega
  · next large =>
    have : ¬ timer.toNat ≤ 1 := fun h => large (UInt8.le_iff_toNat_le.mpr h)
    have := timer.toNat_lt
    rw [UInt8.toNat_sub]
    show (256 - 1 + timer.toNat) % 256 = _
    omega

theorem Waited.tick (s : State) : Waited 1 s s.tickTimers :=
  ⟨rfl, rfl, rfl, rfl, rfl, rfl, toNat_countDown _, toNat_countDown _⟩

/-- A step that waits is noted, and nothing else happens. -/
theorem step_waits (awaits : s.fetch.Transfer 0x0A) (up : s.keypad.anyDown = false)
    (advances : Bool) (random : UInt8) :
    s.step advances random
      = (s.noted.settled, .ok ⟨⟨s.pc, s.fetch⟩, s.redraw, s.registers.dirty⟩) := by
  have idle : s.keypad.firstDown = none := by
    rw [← Option.isNone_iff_eq_none, ← Option.not_isSome, s.keypad.firstDown_isSome, up]
    rfl
  have keypad : s.noted.keypad = s.keypad := rfl
  refine step_of_execute (t := s.noted) ?_
  rw [Instruction.decode_of_awaits awaits]
  simp only [execute, keypad, idle]
  rfl

theorem step_takes {key : Fin 16} (awaits : s.fetch.Transfer 0x0A)
    (down : s.keypad.firstDown = some key) (advances : Bool) (random : UInt8) :
    s.step advances random
      = (({ s.noted with pc := after s.pc }.setRegister s.fetch.x (UInt8.ofNat key.val)).settled,
          .ok ⟨⟨s.pc, s.fetch⟩, s.redraw, true⟩) := by
  have keypad : s.noted.keypad = s.keypad := rfl
  refine step_of_execute (t := { s.noted with pc := after s.pc }.setRegister s.fetch.x
    (UInt8.ofNat key.val)) ?_
  rw [Instruction.decode_of_awaits awaits]
  simp only [execute, keypad, down]

end State

/-! ## Runs -/

namespace Interpreter

/-- Whether a key was down, for each step of a run at the moment of the step. -/
def keysMet (i : Interpreter) (ops : List Operation) : List Bool :=
  i.stepHistory (fun i _ => i.state.keypad.anyDown) ops

/-- It is down after the step, too: no step moves a key. -/
theorem keysMet_eq_after (i : Interpreter) (ops : List Operation) :
    i.keysMet ops
      = i.stepHistory (fun i random => (i.step random).1.state.keypad.anyDown) ops := by
  have same : (fun (i : Interpreter) (_ : UInt8) => i.state.keypad.anyDown)
      = fun i random => (i.step random).1.state.keypad.anyDown := by
    funext i random
    have keypad := (i.state.step_footprint i.advancesIndex random).keypad
    exact (congrArg Keypad.anyDown keypad).symm
  rw [keysMet, same]

theorem perform_waits {i : Interpreter} {op : Operation} (awaits : i.state.fetch.Transfer 0x0A)
    (kept : op.replaces = false) (unmet : op.isStep = true → i.state.keypad.anyDown = false) :
    State.Waited (if op.isTick then 1 else 0) i.state (i.perform op).state := by
  cases op with
  | load source =>
    rw [perform_failed_load i kept]
    exact .refl _
  | step random =>
    show State.Waited 0 i.state (i.state.step i.advancesIndex random).1
    rw [State.step_waits awaits (unmet rfl)]
    exact ⟨rfl, rfl, rfl, rfl, rfl, rfl, rfl, rfl⟩
  | tick => exact .tick _
  | key | expire | clearKeys | snapshot => exact ⟨rfl, rfl, rfl, rfl, rfl, rfl, rfl, rfl⟩

/-- **A wait leaves nothing behind but the ticks**, and none of its steps has anything to report. -/
theorem run_waits {i : Interpreter} {ops : List Operation} (awaits : i.state.fetch.Transfer 0x0A)
    (sound : i.state.Sound) (kept : ∀ op ∈ ops, op.replaces = false)
    (unmet : ∀ met ∈ i.keysMet ops, met = false) :
    State.Waited (ops.countP Operation.isTick) i.state (i.run ops).state
      ∧ ∀ result ∈ i.outcomes ops, ∃ done, result = .ok done
          ∧ done.redraw = false ∧ done.registersChanged = false := by
  -- on the operations; what carries the wait on is that memory and program counter stay, so that
  -- the next step fetches the same `FX0A`
  induction ops generalizing i with
  | nil => exact ⟨.refl _, fun result nowhere => by cases nowhere⟩
  | cons op ops ih =>
    obtain ⟨keptNow, keptLater⟩ := List.forall_mem_cons.mp kept
    have unmetNow : op.isStep = true → i.state.keypad.anyDown = false := by
      intro isStep
      obtain ⟨random, rfl⟩ := Operation.exists_of_isStep isStep
      exact unmet _ List.mem_cons_self
    have unmetLater : ∀ met ∈ (i.perform op).keysMet ops, met = false := fun met later =>
      unmet met (List.mem_append_right _ later)
    have first := perform_waits awaits keptNow unmetNow
    have still : (i.perform op).state.fetch.Transfer 0x0A := by
      rw [first.fetch]
      exact awaits
    obtain ⟨rest, silent⟩ := ih still (perform_sound i op sound) keptLater unmetLater
    refine ⟨?_, fun result here => ?_⟩
    · rw [List.countP_cons, Nat.add_comm]
      exact first.trans rest
    · rcases List.mem_append.mp here with now | later
      · cases op with
        | step random =>
          cases List.mem_singleton.mp now
          have waits := State.step_waits awaits (unmetNow rfl) i.advancesIndex random
          exact ⟨_, congrArg Prod.snd waits, sound.redraw, sound.dirty⟩
        | load | tick | key | expire | clearKeys | snapshot => cases now
      · exact silent result later

/-- **`FX0A` waits for a key and does nothing else.** Take any moment at which the program has come
to an `FX0A`, and whatever happens afterwards, short of loading a program, as long as no step meets
a key: timers tick, snapshots are taken, keys go down and come up again between the steps. No step
moves a key, so it is the same to say that none is down after it (`keysMet_eq_after`). Every such
step succeeds with nothing to report; the program counter stays, registers, `I`, memory, call stack
and screen are what they were, and the timers have moved by the ticks and no further than zero. If
some key is down then, the next step puts the lowest of them into `VX`, in whatever order they went
down, goes on to the next instruction, and leaves the keys as they are. -/
theorem waits_for_key (advances : Bool) (before waiting : List Operation)
    (awaits : ((new advances).run before).state.fetch.Transfer 0x0A)
    (kept : ∀ op ∈ waiting, op.replaces = false)
    (unmet : ∀ met ∈ ((new advances).run before).keysMet waiting, met = false) :
    let i := (new advances).run before
    let s := i.state
    let j := i.run waiting
    let t := j.state
    (∀ result ∈ i.outcomes waiting, ∃ done, result = .ok done
        ∧ done.redraw = false ∧ done.registersChanged = false)
      ∧ State.Waited (waiting.countP Operation.isTick) s t
      ∧ (t.keypad.anyDown = true → ∀ random,
          let u := (j.step random).1.state
          ∃ key : Fin 16,
            (t.keypad.keys.get key = true ∧ ∀ lower < key, t.keypad.keys.get lower = false)
              ∧ (u.registers.get s.fetch.x).toNat = key.val
              ∧ (∀ r, r ≠ s.fetch.x → u.registers.get r = s.registers.get r)
              ∧ u.pc.toNat = (s.pc.toNat + 2) % 4096
              ∧ u.keypad = t.keypad
              ∧ ∃ done, (j.step random).2 = .ok done ∧ done.registersChanged = true) := by
  intro i s j t
  obtain ⟨waited, silent⟩ := run_waits awaits (run_sound advances before) kept unmet
  refine ⟨silent, waited, ?_⟩
  intro anyDown random u
  obtain ⟨key, down⟩ : ∃ key, t.keypad.firstDown = some key := by
    rw [← Option.isSome_iff_exists, t.keypad.firstDown_isSome, anyDown]
  -- the wait has gone by, and this is the step that meets the key
  have fetched : t.fetch = s.fetch := waited.fetch
  have awaitsStill : t.fetch.Transfer 0x0A := by
    rw [fetched]
    exact awaits
  have takes := State.step_takes awaitsStill down j.advancesIndex random
  obtain ⟨state, result⟩ := Prod.ext_iff.mp takes
  have registers : u.registers = (t.registers.write t.fetch.x (UInt8.ofNat key.val)).reported :=
    congrArg State.registers state
  have pc : u.pc = State.after t.pc := congrArg State.pc state
  have keypad : u.keypad = t.keypad := (congrArg State.keypad state).trans rfl
  refine ⟨key, Keypad.firstDown_eq_some down, ?_, fun r other => ?_, ?_, keypad, _, result, rfl⟩
  · rw [registers, ← fetched]
    show ((t.registers.write t.fetch.x (UInt8.ofNat key.val)).get t.fetch.x).toNat = key.val
    have := key.isLt
    rw [Registers.get_write_self, UInt8.toNat_ofNat']
    omega
  · rw [registers]
    show (t.registers.write t.fetch.x (UInt8.ofNat key.val)).get r = s.registers.get r
    rw [Registers.get_write_of_ne _ _ (by rw [fetched]; exact other.symm)]
    exact congrArg (fun v => v.get r) waited.values
  · rw [pc, State.toNat_after, waited.pc]

/-- Starts the delay timer with five, and waits for a key. -/
def fiveThenWait : Source := ⟨[0x61, 0x05, 0xF1, 0x15, 0xF3, 0x0A], none⟩

/-- Key 7 comes and goes between two steps and is not seen. Then 12 and 4 go down, and 4 is taken.
-/
theorem waits_for_key_pressedBetween :
    let waiting : List Operation := [.step 0, .key (.press 7) 1, .tick, .key (.release 7) 2,
      .step 9, .snapshot, .tick, .key (.press 12) 3, .key (.press 4) 4]
    let i := (new false).run [.load fiveThenWait, .step 0, .step 0]
    let j := i.run waiting
    (i.state.delayTimer = 5 ∧ j.state.delayTimer.toNat = 3)
      ∧ j.state.pc = 0x204
      ∧ ((j.step 0).1.state.registers.get 3).toNat = 4
      ∧ (j.step 0).1.state.pc.toNat = 0x206 := by
  intro waiting
  obtain ⟨-, waited, taken⟩ := waits_for_key false [.load fiveThenWait, .step 0, .step 0] waiting
    (by decide +kernel) (by decide +kernel) (by decide +kernel)
  generalize arrived : (new false).run [.load fiveThenWait, .step 0, .step 0] = i at waited taken
  obtain ⟨fetched, place, timer⟩ : i.state.fetch.x = 3 ∧ i.state.pc = 0x204
      ∧ i.state.delayTimer = 5 := by
    rw [← arrived]
    decide +kernel
  have lowest : (i.run waiting).state.keypad.firstDown = some 4 := by
    rw [← arrived]
    decide +kernel
  obtain ⟨down, below⟩ := Keypad.firstDown_eq_some lowest
  have anyDown : (i.run waiting).state.keypad.anyDown = true := by
    rw [← Keypad.firstDown_isSome, lowest]
    rfl
  obtain ⟨key, ⟨keyDown, keyBelow⟩, value, -, pc, -⟩ := taken anyDown 0
  have four : key = 4 := by
    rcases Nat.lt_trichotomy key.val 4 with less | same | more
    · exact absurd keyDown (by rw [below key less]; decide)
    · exact Fin.ext same
    · exact absurd down (by rw [keyBelow 4 more]; decide)
  rw [fetched, four] at value
  rw [place] at pc
  refine ⟨⟨timer, ?_⟩, waited.pc.trans place, value, pc⟩
  rw [waited.delayTimer, timer]
  rfl

end Interpreter

end Chip8
