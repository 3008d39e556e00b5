import Chip8.Proofs.Interpreter.Overlooked
import Chip8.Proofs.Interpreter.Run

/-!
# The high bits of the index register

The index register has sixteen bits, and an address has twelve. Five instructions move the register
by sixteen-bit sums, and those that use it add to it once more for every byte and cut the sum down
to an address only then. This file says that it comes to the same as if the register had twelve bits
from the start (`State.folded`): 4096 divides 65536, so it does not matter where the cut is made, as
long as it is made before memory is reached.

So two states that differ in the high four bits stay so, and nobody who uses the interpreter learns
of it but from the index register that a snapshot shows (`only_low_index_matters`).
-/

set_option autoImplicit false

namespace Chip8

/-! ## Addresses -/

namespace Address

variable {a b : UInt16}

theorem ofWord_eq_iff : ofWord a = ofWord b ↔ a % 4096 = b % 4096 := by
  rw [← Fin.val_inj, ← UInt16.toNat_inj, UInt16.toNat_mod, UInt16.toNat_mod]
  rfl

/-- The carry out of the sixteenth bit is a multiple of 4096. -/
theorem ofWord_add_congr (h : ofWord a = ofWord b) (k : UInt16) :
    ofWord (a + k) = ofWord (b + k) := by
  have low : a.toNat % 4096 = b.toNat % 4096 := congrArg Fin.val h
  apply Fin.ext
  show (a + k).toNat % 4096 = (b + k).toNat % 4096
  rw [UInt16.toNat_add, UInt16.toNat_add]
  omega

end Address

namespace Memory

variable {a b : UInt16} (m : Memory)

theorem get_congr (h : Address.ofWord a = Address.ofWord b) : m.get a = m.get b := by
  rw [get, get, h]

theorem set_congr (h : Address.ofWord a = Address.ofWord b) (value : UInt8) :
    m.set a value = m.set b value := by
  simp only [set, h]

theorem getAll_congr (h : Address.ofWord a = Address.ofWord b) (count : Nat) :
    m.getAll a count = m.getAll b count :=
  List.map_congr_left fun k _ => m.get_congr (Address.ofWord_add_congr h (UInt16.ofNat k))

theorem setAll_congr (h : Address.ofWord a = Address.ofWord b) (bytes : List UInt8) :
    m.setAll a bytes = m.setAll b bytes := by
  induction bytes generalizing m a b with
  | nil => rfl
  | cons byte rest ih =>
    rw [setAll, setAll, m.set_congr h]
    exact ih _ (Address.ofWord_add_congr h 1)

end Memory

/-! ## One step -/

namespace State

/-- The state with an index register of twelve bits. -/
def folded (s : State) : State := { s with index := s.index % 4096 }

variable {s t : State}

theorem folded_eq_iff : s.folded = t.folded
    ↔ { s with index := 0 } = { t with index := 0 } ∧ s.index % 4096 = t.index % 4096 := by
  constructor
  · intro h
    exact ⟨congrArg (fun r : State => { r with index := 0 }) h, congrArg State.index h⟩
  · rintro ⟨rest, low⟩
    have filled := congrArg (fun r : State => { r with index := s.index % 4096 }) rest
    exact filled.trans (congrArg (fun i => { t with index := i }) low)

theorem folded_index (s : State) : s.folded.index % 4096 = s.index % 4096 := by
  rw [← UInt16.toNat_inj, UInt16.toNat_mod, folded, UInt16.toNat_mod]
  exact Nat.mod_mod _ _

theorem folded_address (s : State) : Address.ofWord s.folded.index = Address.ofWord s.index :=
  Address.ofWord_eq_iff.mpr s.folded_index

/-- The index register may be moved before it is cut down, or afterwards. -/
theorem folded_advanceIndex (h : s.folded = t.folded) (advances : Bool) (x : Register) :
    (s.advanceIndex advances x).folded = (t.advanceIndex advances x).folded := by
  cases advances with
  | false => exact h
  | true =>
    obtain ⟨rest, low⟩ := folded_eq_iff.mp h
    have moved := Address.ofWord_add_congr (Address.ofWord_eq_iff.mpr low)
      (UInt16.ofNat (x.val + 1))
    exact folded_eq_iff.mpr ⟨rest, Address.ofWord_eq_iff.mp moved⟩

/-- **No instruction looks at the high bits of the index register**, and none lets them get into the
low ones. -/
theorem execute_folded (advances : Bool) (random : UInt8) (pc : UInt16) (s : State)
    (ins : Instruction) :
    (s.folded.execute advances random pc ins).map folded
      = (s.execute advances random pc ins).map folded := by
  -- an address is taken from `I` modulo 4096, and adding to `I` respects that; the instructions
  -- that read or write memory go through an address, and all others do not look at `I`
  have low := s.folded_index
  have moved (k : UInt16) : (s.folded.index + k) % 4096 = (s.index + k) % 4096 :=
    Address.ofWord_eq_iff.mp (Address.ofWord_add_congr s.folded_address k)
  have skip (c : Bool) : (s.folded.skipIf c).folded = (s.skipIf c).folded := by
    cases c <;> exact folded_eq_iff.mpr ⟨rfl, low⟩
  have hstack : s.folded.stack = s.stack := rfl
  have hpc : s.folded.pc = s.pc := rfl
  have hkeypad : s.folded.keypad = s.keypad := rfl
  have hmemory : s.folded.memory = s.memory := rfl
  cases ins with
  | ret =>
    simp only [execute, hstack]
    cases s.stack.pop? with
    | none => rfl
    | some popped => exact congrArg Except.ok (folded_eq_iff.mpr ⟨rfl, low⟩)
  | call target =>
    simp only [execute, hstack, hpc]
    cases s.stack.push? s.pc with
    | none => rfl
    | some stack => exact congrArg Except.ok (folded_eq_iff.mpr ⟨rfl, low⟩)
  | waitForKey x =>
    simp only [execute, hkeypad]
    cases s.keypad.firstDown <;> exact congrArg Except.ok (folded_eq_iff.mpr ⟨rfl, low⟩)
  | skipEqualConstant | skipNotEqualConstant | skipEqualRegister | skipNotEqualRegister
  | skipIfPressed | skipIfNotPressed => exact congrArg Except.ok (skip _)
  -- what the register held is gone, the high bits with it
  | setIndex | pointAtGlyph => rfl
  | addToIndex x => exact congrArg Except.ok (folded_eq_iff.mpr ⟨rfl, moved _⟩)
  | draw x y n =>
    simp only [execute]
    rw [hmemory, s.memory.getAll_congr s.folded_address]
    exact congrArg Except.ok (folded_eq_iff.mpr ⟨rfl, low⟩)
  | storeDecimal x =>
    simp only [execute]
    rw [hmemory, s.memory.setAll_congr s.folded_address]
    exact congrArg Except.ok (folded_eq_iff.mpr ⟨rfl, low⟩)
  | storeRegisters x =>
    simp only [execute]
    rw [hmemory, s.memory.setAll_congr s.folded_address]
    refine congrArg Except.ok (folded_advanceIndex ?_ advances x)
    exact folded_eq_iff.mpr ⟨rfl, low⟩
  | loadRegisters x =>
    -- each byte of the block is found from a sum of its own, which wraps on its own
    have loaded (k : Register) : s.memory.get (s.folded.index + UInt16.ofNat k.val)
        = s.memory.get (s.index + UInt16.ofNat k.val) :=
      s.memory.get_congr (Address.ofWord_add_congr s.folded_address _)
    simp only [execute]
    rw [hmemory, funext loaded]
    refine congrArg Except.ok (folded_advanceIndex ?_ advances x)
    exact folded_eq_iff.mpr ⟨rfl, low⟩
  | _ => exact congrArg Except.ok (folded_eq_iff.mpr ⟨rfl, low⟩)

theorem folded_overlooks : Overlooks folded :=
  ⟨fun s => folded_eq_iff.mpr ⟨rfl, s.folded_index⟩, fun _ => rfl, fun _ => rfl, fun _ => rfl,
    fun _ => rfl, fun _ => rfl, fun _ _ => rfl, fun _ => rfl⟩

end State

/-! ## Runs -/

namespace Interpreter

/-- The answer, if an index register is shown in it, with the low twelve bits of that only. -/
def Answer.folded : Answer → Answer
  | .shown view => .shown { view with index := view.index % 4096 }
  | answer => answer

variable {i j : Interpreter}

/-- **What is done to two interpreters that agree but for the high bits** leaves them so, and is
answered the same. -/
theorem perform_folded (hadvances : i.advancesIndex = j.advancesIndex)
    (h : i.state.folded = j.state.folded) (op : Operation) :
    (i.perform op).state.folded = (j.perform op).state.folded
      ∧ (i.answer op).folded = (j.answer op).folded := by
  cases op with
  | load source =>
    refine ⟨?_, congrArg (fun r => (Answer.loaded r).folded) (load_result_congr i j source)⟩
    -- a load that succeeds forgets both states, and one that fails leaves both alone
    cases loads : (Operation.load source).replaces with
    | true => rw [perform_load_congr hadvances loads]
    | false => rw [perform_failed_load i loads, perform_failed_load j loads, h]
  | step random =>
    obtain ⟨s, advances⟩ := i
    obtain ⟨t, _⟩ := j
    cases hadvances
    have stepped := State.folded_overlooks.step_congr (State.execute_folded advances random) h
    exact ⟨stepped.1, congrArg (fun r => (Answer.stepped r).folded) stepped.2⟩
  | tick => exact ⟨congrArg State.tickTimers h, rfl⟩
  | key event now =>
    refine ⟨congrArg (fun s => (s.applyKey event now).1) h, ?_⟩
    show Answer.keys (i.state.folded.applyKey event now).2 = .keys (j.state.folded.applyKey _ _).2
    rw [h]
  | expire window now =>
    refine ⟨congrArg (fun s => (s.expireKeys window now).1) h, ?_⟩
    show Answer.keys (i.state.folded.expireKeys window now).2
      = .keys (j.state.folded.expireKeys _ _).2
    rw [h]
  | clearKeys =>
    refine ⟨congrArg (fun s => s.clearKeys.1) h, ?_⟩
    show Answer.keys i.state.folded.clearKeys.2 = .keys j.state.folded.clearKeys.2
    rw [h]
  | snapshot =>
    refine ⟨congrArg State.seen h, ?_⟩
    show Answer.shown i.state.folded.view = .shown j.state.folded.view
    rw [h]

theorem run_folded (hadvances : i.advancesIndex = j.advancesIndex)
    (h : i.state.folded = j.state.folded) (ops : List Operation) :
    (i.run ops).state.folded = (j.run ops).state.folded
      ∧ (i.answers ops).map Answer.folded = (j.answers ops).map Answer.folded := by
  induction ops generalizing i j with
  | nil => exact ⟨h, rfl⟩
  | cons op ops ih =>
    obtain ⟨performed, answered⟩ := perform_folded hadvances h op
    have advances : (i.perform op).advancesIndex = (j.perform op).advancesIndex := by
      rw [perform_advancesIndex, perform_advancesIndex, hadvances]
    obtain ⟨rest, answers⟩ := ih advances performed
    exact ⟨rest, List.cons_eq_cons.mpr ⟨answered, answers⟩⟩

/-- **Only the low twelve bits of the index register matter.** Take two interpreters that treat the
register in the same way, and states that are the same but for the register, which agrees modulo
4096. Whatever is done to both, steps that draw the same bytes among it, leaves them so, and comes to
the same: the same loads fail, the same steps fail in the same way, the same keys change, and the
snapshots are the same. The one trace of the high four bits is the index register that a snapshot
shows. -/
theorem only_low_index_matters (hadvances : i.advancesIndex = j.advancesIndex)
    (rest : { i.state with index := 0 } = { j.state with index := 0 })
    (low : i.state.index % 4096 = j.state.index % 4096) (ops : List Operation) :
    ({ (i.run ops).state with index := 0 } = { (j.run ops).state with index := 0 }
        ∧ (i.run ops).state.index % 4096 = (j.run ops).state.index % 4096)
      ∧ (i.answers ops).map Answer.folded = (j.answers ops).map Answer.folded := by
  obtain ⟨ended, answered⟩ := run_folded hadvances (State.folded_eq_iff.mpr ⟨rest, low⟩) ops
  exact ⟨State.folded_eq_iff.mp ended, answered⟩

/-- Stores three registers, loads two of them back, draws what comes next, stores a number, moves the
index register on and calls itself. The index register begins where it is told to, and moves with
every block of registers. -/
def roaming (index : UInt16) : Interpreter :=
  let i := (new true).perform (.load
    ⟨[0xF2, 0x55, 0xF1, 0x65, 0xD0, 0x15, 0xF0, 0x33, 0xF1, 0x1E, 0x22, 0x00], none⟩)
  { i with state := { i.state with index := index } }

/-- The first block crosses the top of memory, and for one of the two the top of the register. -/
def acrossTheTop : List Operation :=
  [.key (.press 3) 5, .step 0, .snapshot, .step 0, .tick, .step 0, .step 0, .snapshot, .step 0,
    .step 0, .expire 10 20, .step 0]

theorem only_low_index_matters_acrossTheTop :
    let i := roaming 0x0FFE
    let j := roaming 0xFFFE
    ({ i.state with index := 0 } = { j.state with index := 0 }
        ∧ i.state.index % 4096 = j.state.index % 4096)
      ∧ { (i.run acrossTheTop).state with index := 0 }
          = { (j.run acrossTheTop).state with index := 0 }
      ∧ ((i.run acrossTheTop).state.index = 0x1096 ∧ (j.run acrossTheTop).state.index = 0x0096)
      ∧ (i.answers acrossTheTop).map Answer.folded = (j.answers acrossTheTop).map Answer.folded := by
  intro i j
  have low : i.state.index % 4096 = j.state.index % 4096 := by decide +kernel
  obtain ⟨ended, answered⟩ := only_low_index_matters (i := i) (j := j) rfl rfl low acrossTheTop
  have moved : (i.run acrossTheTop).state.index = 0x1096
      ∧ (j.run acrossTheTop).state.index = 0x0096 := by
    decide +kernel
  exact ⟨⟨rfl, low⟩, ended.1, moved, answered⟩

end Interpreter

end Chip8
