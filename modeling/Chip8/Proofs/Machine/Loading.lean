import Chip8.Machine.Calls
import Chip8.Proofs.Machine.Effects
import Chip8.Proofs.Memory.Writing

/-!
# Loading is all or nothing

A load reads a program to its end before it writes anything, and writes it into a fresh state. So a
program that is read and fits is found exactly where it belongs, in a machine that has forgotten
everything else; and a source that fails, after however many bytes, or yields more than there is
room for, leaves everything as it was (`load_all_or_nothing`).

What memory holds afterwards is said as one list of bytes (`State.Fresh`). The pieces of it come
from `Memory.overlay` (`Memory.toList_overlay`), through which the font gets into memory, too.
-/

set_option autoImplicit false

namespace Chip8

/-! ## Blocks of memory -/

namespace Memory

theorem length_font : font.length = 80 := rfl

theorem toList_zeroed : zeroed.bytes.toList = List.replicate 4096 0 := Vector.toList_replicate

theorem toList_initial : initial.bytes.toList = font ++ List.replicate 4016 0 := by
  have fits : fontStart.toNat + font.length ≤ 4096 := by decide
  rw [initial, toList_overlay _ fits, toList_zeroed, List.take_replicate, List.drop_replicate]
  rfl

/-- The font, and zeros below the program and above it. -/
theorem toList_loaded {program : List UInt8} (fits : program.length ≤ 3584) :
    (initial.overlay programStart.toNat program).bytes.toList
      = font ++ List.replicate 432 0 ++ program ++ List.replicate (3584 - program.length) 0 := by
  have start : programStart.toNat = font.length + 432 := rfl
  have below : (List.replicate 4016 (0 : UInt8)).take 432 = List.replicate 432 0 := by
    rw [List.take_replicate]; rfl
  have above : 4016 - (432 + program.length) = 3584 - program.length := by omega
  rw [toList_overlay _ (by rw [start, length_font]; omega), toList_initial, start,
    List.take_length_add_append, below, Nat.add_assoc, List.drop_length_add_append,
    List.drop_replicate, above]

end Memory

/-! ## Fresh states -/

namespace State

/-- A program has been loaded and nothing else has happened. -/
structure Fresh (program : List UInt8) (s : State) : Prop where
  memory : s.memory.bytes.toList
    = Memory.font ++ List.replicate 432 0 ++ program ++ List.replicate (3584 - program.length) 0
  pc : s.pc = 0x200
  values (r : Register) : s.registers.get r = 0
  changed (r : Register) : s.registers.changed.get r = false
  dirty : s.registers.dirty = false
  index : s.index = 0
  slots (k : Fin 16) : s.stack.slots.get k = 0
  depth : s.stack.depth = 0
  delayTimer : s.delayTimer = 0
  soundTimer : s.soundTimer = 0
  keys (k : Fin 16) : s.keypad.keys.get k = false
  lastEvent : s.keypad.lastEvent = none
  pixels (k : Fin 2048) : s.frame.pixels.get k = false
  redraw : s.redraw = false
  opcode : s.opcode = 0
  last : s.last = none

/-- Nothing is left open: there is one such state for each program. -/
theorem Fresh.unique {program : List UInt8} {s t : State} (hs : s.Fresh program)
    (ht : t.Fresh program) : s = t := by
  have vectors {α : Type} {n : Nat} {v w : Vector α n} (same : ∀ k, v.get k = w.get k) : v = w :=
    Vector.ext fun k hk => same ⟨k, hk⟩
  have values := vectors fun r => (hs.values r).trans (ht.values r).symm
  have changed := vectors fun r => (hs.changed r).trans (ht.changed r).symm
  have slots := vectors fun k => (hs.slots k).trans (ht.slots k).symm
  have keys := vectors fun k => (hs.keys k).trans (ht.keys k).symm
  have pixels := vectors fun k => (hs.pixels k).trans (ht.pixels k).symm
  have bytes := Vector.toList_inj.mp (hs.memory.trans ht.memory.symm)
  obtain ⟨⟨_⟩, ⟨_, _, _⟩, _, _, ⟨_, _, _⟩, _, _, ⟨_, _⟩, ⟨_⟩, _, _, _⟩ := s
  obtain ⟨⟨_⟩, ⟨_, _, _⟩, _, _, ⟨_, _, _⟩, _, _, ⟨_, _⟩, ⟨_⟩, _, _, _⟩ := t
  obtain ⟨-, rfl, -, -, rfl, rfl, -, rfl, rfl, rfl, -, rfl, -, rfl, rfl, rfl⟩ := hs
  obtain ⟨-, rfl, -, -, rfl, rfl, -, rfl, rfl, rfl, -, rfl, -, rfl, rfl, rfl⟩ := ht
  cases values
  cases changed
  cases slots
  cases keys
  cases pixels
  cases bytes
  rfl

variable {source : Source}

theorem load_of_fails {reason : String} (fails : source.failure = some reason) :
    load source = .error (.io reason) := by
  simp only [load, Memory.loadProgram, Memory.writeFrom, Source.read, fails]
  rfl

theorem load_of_reads (reads : source.failure = none) :
    load source = (initial.memory.write source.bytes Memory.programStart).map fun memory =>
      (source.bytes.length, { initial with memory := memory }) := by
  simp only [load, Memory.loadProgram, Memory.writeFrom, Source.read, reads]
  show (do let loaded ← (do let written ← initial.memory.write source.bytes Memory.programStart
                            return (source.bytes.length, written))
           return (loaded.1, { initial with memory := loaded.2 }) : Except Error (Nat × State)) = _
  cases initial.memory.write source.bytes Memory.programStart <;> rfl

theorem load_of_long (reads : source.failure = none) (long : 3584 < source.bytes.length) :
    load source = .error (.romTooLarge source.bytes.length 3584) := by
  have refused : initial.memory.write source.bytes Memory.programStart
      = .error (.romTooLarge source.bytes.length 3584) := if_pos long
  rw [load_of_reads reads, refused]
  rfl

theorem load_of_fits (reads : source.failure = none) (fits : source.bytes.length ≤ 3584) :
    ∃ s, load source = .ok (source.bytes.length, s) ∧ s.Fresh source.bytes := by
  have written : initial.memory.write source.bytes Memory.programStart
      = .ok (initial.memory.overlay Memory.programStart.toNat source.bytes) :=
    (if_neg (Nat.not_lt.mpr fits)).trans (if_neg (by decide))
  have zeros {α : Type} {n : Nat} (a : α) (k : Fin n) : (Vector.replicate n a).get k = a :=
    Vector.getElem_replicate _
  refine ⟨{ initial with memory := initial.memory.overlay Memory.programStart.toNat source.bytes },
    ?_, ?_⟩
  · rw [load_of_reads reads, written]
    rfl
  · exact ⟨Memory.toList_loaded fits, rfl, zeros 0, zeros false, rfl, rfl, zeros 0, rfl, rfl, rfl,
      zeros false, rfl, zeros false, rfl, rfl, rfl⟩

theorem fresh_of_load {length : Nat} {s : State} (h : load source = .ok (length, s)) :
    s.Fresh source.bytes := by
  cases reads : source.failure with
  | some reason =>
    rw [load_of_fails reads] at h
    cases h
  | none =>
    rcases Nat.lt_or_ge 3584 source.bytes.length with long | fits
    · rw [load_of_long reads long] at h
      cases h
    · obtain ⟨t, loads, fresh⟩ := load_of_fits reads fits
      rw [loads] at h
      cases h
      exact fresh

end State

/-! ## Loads -/

section

variable {source : Source} {length : Nat} {s : State} {e : Error}

theorem Interpreter.load_of_ok (h : State.load source = .ok (length, s)) (before : State)
    (advances : Bool) :
    (Interpreter.mk before advances).load source = (⟨s, advances⟩, .ok length) := by
  rw [load, h]

theorem Interpreter.load_of_error (h : State.load source = .error e) (i : Interpreter) :
    i.load source = (i, .error e) := by
  rw [load, h]

theorem Machine.load_of_error (h : State.load source = .error e) (m : Machine) :
    m.load source = (m, .error e) := by
  rw [load, replaceProgram, m.interpreter.load_of_error h]
  rfl

theorem Machine.load_of_ok (h : State.load source = .ok (length, s)) (m : Machine) :
    (m.load source).2 = .ok length
      ∧ (m.load source).1.interpreter = ⟨s, m.interpreter.advancesIndex⟩
      ∧ (m.load source).1.frontend = (m.frontend.send .display).send .registers := by
  have loads : m.interpreter.load source = (⟨s, m.interpreter.advancesIndex⟩, .ok length) :=
    Interpreter.load_of_ok h _ _
  rw [load, replaceProgram, loads]
  refine ⟨rfl, ?_, ?_⟩
  · show ((notify _ .display).notify .registers).interpreter = _
    rw [notify_interpreter, notify_interpreter]
    rfl
  · show ((notify _ .display).notify .registers).frontend = _
    rw [notify_frontend, notify_frontend]
    rfl

end

namespace Machine

/-- **Loading is all or nothing, and forgets the past.** A program that is read to its end and fits
leaves what it leaves in a machine in which nothing has happened yet: its bytes behind the font, and
everything else as it is at first. There is no other such state. A program of more than 3584 bytes
is refused, and a source that fails gives its reason, in whatever state the machine is and however
many bytes were read before; then the interpreter is as it was, and so is the machine, its frontend
included. -/
theorem load_all_or_nothing (m : Machine) (source : Source) :
    (source.failure = none → source.bytes.length ≤ 3584 →
        ∃ loaded : Interpreter,
          m.interpreter.load source = (loaded, .ok source.bytes.length)
          ∧ (Interpreter.new m.interpreter.advancesIndex).load source
              = (loaded, .ok source.bytes.length)
          ∧ (loaded.state.Fresh source.bytes ∧ ∀ s, s.Fresh source.bytes → s = loaded.state)
          ∧ (m.load source).2 = .ok source.bytes.length
          ∧ (m.load source).1.interpreter = loaded
          ∧ (m.load source).1.frontend = (m.frontend.send .display).send .registers)
      ∧ (source.failure = none → 3584 < source.bytes.length →
          m.interpreter.load source
              = (m.interpreter, .error (.romTooLarge source.bytes.length 3584))
            ∧ m.load source = (m, .error (.romTooLarge source.bytes.length 3584)))
      ∧ ∀ reason, source.failure = some reason →
          m.interpreter.load source = (m.interpreter, .error (.io reason))
            ∧ m.load source = (m, .error (.io reason)) := by
  refine ⟨fun reads fits => ?_, fun reads long => ?_, fun reason fails => ?_⟩
  · obtain ⟨s, loads, fresh⟩ := State.load_of_fits reads fits
    obtain ⟨result, interpreter, frontend⟩ := m.load_of_ok loads
    exact ⟨⟨s, m.interpreter.advancesIndex⟩, Interpreter.load_of_ok loads _ _,
      Interpreter.load_of_ok loads _ _, ⟨fresh, fun t other => other.unique fresh⟩, result,
      interpreter, frontend⟩
  · have refused := State.load_of_long reads long
    exact ⟨m.interpreter.load_of_error refused, m.load_of_error refused⟩
  · have failed := State.load_of_fails fails
    exact ⟨m.interpreter.load_of_error failed, m.load_of_error failed⟩

/-- A key is down, a timer runs, a register is marked, and a call is pending. -/
def worn : Machine :=
  let m := ((new {} (Frontend.ofCapacity 8) none).load
    ⟨[0x6A, 0x07, 0xFA, 0x15, 0x22, 0x00], none⟩).1.sendKey (.press 3)
  (List.range 3).foldl (fun m now => (m.stepOnce now 0).1) m

theorem load_all_or_nothing_worn :
    (worn.state.keypad.anyDown = true ∧ worn.state.delayTimer = 7 ∧ worn.state.stack.depth = 1)
      ∧ (∃ loaded : Interpreter, worn.interpreter.load ⟨[0x12, 0x00], none⟩ = (loaded, .ok 2)
          ∧ loaded.state.Fresh [0x12, 0x00])
      ∧ worn.load ⟨List.replicate 3585 0, none⟩ = (worn, .error (.romTooLarge 3585 3584))
      ∧ worn.load ⟨[0x12], some "unplugged"⟩ = (worn, .error (.io "unplugged")) := by
  refine ⟨by decide +kernel, ?_, ?_, ?_⟩
  · obtain ⟨loaded, loads, -, ⟨fresh, -⟩, -⟩ :=
      (load_all_or_nothing worn ⟨[0x12, 0x00], none⟩).1 rfl (by decide)
    exact ⟨loaded, loads, fresh⟩
  · have length : (List.replicate 3585 (0 : UInt8)).length = 3585 := List.length_replicate
    have refused := ((load_all_or_nothing worn ⟨List.replicate 3585 0, none⟩).2.1 rfl (by
      rw [length]; decide)).2
    rw [refused, length]
  · exact ((load_all_or_nothing worn ⟨[0x12], some "unplugged"⟩).2.2 "unplugged" rfl).2

end Machine

end Chip8
