import Chip8.Interpreter
import Chip8.Proofs.Memory.Blocks

/-!
# Registers in memory

`FX55` stores the registers up to `VX` as a block of memory at `I`, and `FX65` loads them from such
a block. There are at most sixteen of them, and that many bytes never meet, wherever `I` points and
whatever was there: so loading undoes storing for the registers, and storing undoes loading for
memory (`store_load_round_trip`). In between anything may happen to everything but memory, as long
as `I` is set to where it was; `FX55` and `FX65` may have moved it themselves.
-/

set_option autoImplicit false

namespace Chip8

namespace Registers

variable (r : Registers) (x : Register)

/-- The values of the registers up to `Vx`, `V0` first. -/
def upTo : List UInt8 := r.values.toList.take (x.val + 1)

theorem length_upTo : (r.upTo x).length = x.val + 1 := by
  have := x.isLt
  rw [upTo, List.length_take, Vector.length_toList]
  omega

theorem getElem_upTo (k : Register) (h : k.val < (r.upTo x).length) :
    (r.upTo x)[k.val] = r.get k := by
  simp [upTo, get_eq_getElem]

theorem get_writeThrough (value : Register → UInt8) (k : Register) :
    (r.writeThrough x value).get k = if k ≤ x then value k else r.get k :=
  Vector.getElem_ofFn _

end Registers

namespace Memory

variable (m : Memory) (addr : UInt16) (r : Registers) (x : Register)

/-- Each register has a byte of its own. -/
theorem byteAt_setAll_upTo {k : Register} (h : k ≤ x) :
    (m.setAll addr (r.upTo x)).byteAt (addr.toNat + k.val) = r.get k := by
  have length := r.length_upTo x
  have := x.isLt
  have inside : k.val < (r.upTo x).length := by
    rw [length]
    exact Nat.lt_succ_of_le h
  rw [byteAt_setAll m addr (by omega) inside, Registers.getElem_upTo]

/-- Registers that hold a block of memory are stored as that block. -/
theorem upTo_eq_block (h : ∀ k ≤ x, r.get k = m.byteAt (addr.toNat + k.val)) :
    r.upTo x = m.block addr.toNat (x.val + 1) := by
  apply List.ext_getElem ((r.length_upTo x).trans (m.length_block _ _).symm)
  intro k inside _
  have bound : k < x.val + 1 := (r.length_upTo x) ▸ inside
  have register : k < 16 := by omega
  rw [getElem_block, ← h ⟨k, register⟩ (Nat.le_of_lt_succ bound)]
  exact r.getElem_upTo x ⟨k, register⟩ inside

end Memory

namespace State

variable (s : State) (advances : Bool) (x : Register)

theorem toNat_index_advanceIndex :
    (s.advanceIndex advances x).index.toNat
      = if advances then (s.index.toNat + (x.val + 1)) % 65536 else s.index.toNat := by
  cases advances with
  | false => rfl
  | true =>
    have := x.isLt
    show (s.index + UInt16.ofNat (x.val + 1)).toNat = (s.index.toNat + (x.val + 1)) % 65536
    rw [UInt16.toNat_add, UInt16.toNat_ofNat']
    omega

theorem advanceIndex_memory : (s.advanceIndex advances x).memory = s.memory := by
  cases advances <;> rfl

theorem advanceIndex_registers : (s.advanceIndex advances x).registers = s.registers := by
  cases advances <;> rfl

/-- What `FX55` leaves. -/
def stored : State :=
  { s with memory := s.memory.setAll s.index (s.registers.upTo x) }.advanceIndex advances x

/-- What `FX65` leaves. -/
def refilled : State :=
  { s with registers := s.registers.writeThrough x fun k =>
      s.memory.get (s.index + UInt16.ofNat k.val) }.advanceIndex advances x

theorem execute_storeRegisters (random : UInt8) (pc : UInt16) :
    s.execute advances random pc (.storeRegisters x) = .ok (s.stored advances x) := rfl

theorem execute_loadRegisters (random : UInt8) (pc : UInt16) :
    s.execute advances random pc (.loadRegisters x) = .ok (s.refilled advances x) := rfl

theorem stored_memory :
    (s.stored advances x).memory = s.memory.setAll s.index (s.registers.upTo x) :=
  advanceIndex_memory _ advances x

theorem refilled_memory : (s.refilled advances x).memory = s.memory :=
  advanceIndex_memory _ advances x

theorem get_refilled (k : Register) :
    (s.refilled advances x).registers.get k
      = if k ≤ x then s.memory.byteAt (s.index.toNat + k.val) else s.registers.get k := by
  unfold refilled
  rw [advanceIndex_registers, Registers.get_writeThrough]
  simp only [Memory.get_add]

end State

/-! ## There and back -/

namespace State

/-- **Storing and loading registers undo each other**, wherever `I` points. `FX55` puts register `k`
in the byte at `I + k`, wrapped, for `k` up to `X`, and writes no other byte; `I` stays, or moves
behind the block if the machine is set to move it. If `FX65` then meets that memory with the old
`I`, it restores the registers up to `VX` and leaves the others as it finds them, in whatever state
the rest of the machine is; `I` moves as before. The other way round, registers that `FX65` has just
loaded are stored by `FX55`, at the old `I`, without a change to memory. -/
theorem store_load_round_trip (s : State) (advances : Bool) (x : Register) :
    (∃ stored : State,
        (∀ random pc, s.execute advances random pc (.storeRegisters x) = .ok stored)
          ∧ (∀ k ≤ x, stored.memory.byteAt (s.index.toNat + k.val) = s.registers.get k)
          ∧ (∀ a, ¬ Memory.InBlock s.index.toNat (x.val + 1) a →
              stored.memory.byteAt a = s.memory.byteAt a)
          ∧ stored.index.toNat
            = (if advances then (s.index.toNat + (x.val + 1)) % 65536 else s.index.toNat)
          ∧ ∀ later : State, ∃ loaded : State,
              (∀ random pc, { later with memory := stored.memory, index := s.index }.execute
                advances random pc (.loadRegisters x) = .ok loaded)
                ∧ ∀ k, loaded.registers.get k
                  = if k ≤ x then s.registers.get k else later.registers.get k)
      ∧ ∃ loaded : State,
          (∀ random pc, s.execute advances random pc (.loadRegisters x) = .ok loaded)
            ∧ loaded.index.toNat
              = (if advances then (s.index.toNat + (x.val + 1)) % 65536 else s.index.toNat)
            ∧ ∀ later : State, ∃ stored : State,
                (∀ random pc,
                    { later with
                      memory := loaded.memory
                      registers := loaded.registers
                      index := s.index }.execute advances random pc (.storeRegisters x)
                    = .ok stored)
                  ∧ stored.memory = s.memory := by
  refine ⟨⟨s.stored advances x, s.execute_storeRegisters advances x, fun k h => ?_, fun a off => ?_,
      toNat_index_advanceIndex _ advances x, fun later => ?_⟩,
    s.refilled advances x, s.execute_loadRegisters advances x,
    toNat_index_advanceIndex _ advances x, fun later => ?_⟩
  · rw [stored_memory]
    exact Memory.byteAt_setAll_upTo _ _ _ _ h
  · rw [stored_memory]
    refine Memory.byteAt_setAll_of_not_inBlock _ _ ?_
    rw [Registers.length_upTo]
    exact off
  · refine ⟨_, execute_loadRegisters _ advances x, fun k => ?_⟩
    rw [get_refilled]
    -- a load reads `I` and the block, and neither depends on the rest of the state it meets
    by_cases h : k ≤ x
    · rw [if_pos h, if_pos h]
      show (s.stored advances x).memory.byteAt (s.index.toNat + k.val) = _
      rw [stored_memory]
      exact Memory.byteAt_setAll_upTo _ _ _ _ h
    · rw [if_neg h, if_neg h]
  · refine ⟨_, execute_storeRegisters _ advances x, ?_⟩
    -- what has been loaded is the block, so to store it is to write the block over itself; sixteen
    -- bytes at most do not run into their own beginning
    have block : (s.refilled advances x).registers.upTo x
        = s.memory.block s.index.toNat (x.val + 1) := by
      refine Memory.upTo_eq_block _ _ _ _ fun k h => ?_
      rw [get_refilled, if_pos h]
    have := x.isLt
    rw [stored_memory]
    show ((s.refilled advances x).memory).setAll s.index ((s.refilled advances x).registers.upTo x)
      = s.memory
    rw [refilled_memory, block]
    exact Memory.setAll_block _ _ (by omega)

/-- Two registers are set, and `I` is the largest word. -/
def twoSet : State :=
  { (initial.setRegister 0 0x11).setRegister 1 0x22 with index := 0xFFFF }

/-- The block is the last byte of memory and the first, where the font was. -/
theorem store_load_round_trip_overTheFont :
    ∃ stored : State, twoSet.execute true 0 0x200 (.storeRegisters 1) = .ok stored
      ∧ stored.memory.byteAt 0xFFF = 0x11 ∧ stored.memory.byteAt 0 = 0x22
      ∧ stored.memory.byteAt 1 = 0x90 ∧ stored.index.toNat = 1
      ∧ ∃ loaded : State,
          { initial with memory := stored.memory, index := 0xFFFF }.execute true 0 0x200
            (.loadRegisters 1) = .ok loaded
            ∧ loaded.registers.get 0 = 0x11 ∧ loaded.registers.get 1 = 0x22
            ∧ loaded.registers.get 2 = 0 := by
  obtain ⟨⟨stored, stores, places, others, index, back⟩, -⟩ :=
    store_load_round_trip twoSet true 1
  obtain ⟨loaded, loads, values⟩ := back initial
  have first := places 0 (by decide)
  have second := places 1 (by decide)
  have font := others 1 (by decide)
  refine ⟨stored, stores 0 0x200, ?_, ?_, font.trans (by decide +kernel), index.trans (by decide),
    loaded, loads 0 0x200, ?_, ?_, ?_⟩
  · exact (stored.memory.byteAt_congr (by decide)).trans first
  · exact (stored.memory.byteAt_congr (by decide)).trans second
  · exact values 0
  · exact values 1
  · exact values 2

end State

end Chip8
