import Chip8.Proofs.Interpreter.RegisterBlocks

/-!
# Decimal digits

`FX33` writes the three decimal digits of a register as a block of memory at `I`, the hundreds first,
and `F265` loads such a block into the first three registers. Wherever `I` points the three places
are different, so the digits arrive, also if the register that was taken apart is one of those that
are loaded.
-/

set_option autoImplicit false

namespace Chip8

/-! ## Digits of a byte -/

/-- The decimal digits of a byte, the hundreds first. -/
def decimal (v : UInt8) : List UInt8 := [v / 100, v / 10 % 10, v % 10]

theorem length_decimal (v : UInt8) : (decimal v).length = 3 := rfl

theorem decimal_le {v d : UInt8} (digit : d ∈ decimal v) : d.toNat ≤ 9 := by
  have := v.toNat_lt
  simp only [decimal, List.mem_cons, List.not_mem_nil, or_false] at digit
  rcases digit with rfl | rfl | rfl <;> simp <;> omega

theorem decimal_worth (v : UInt8) :
    100 * (v / 100).toNat + 10 * (v / 10 % 10).toNat + (v % 10).toNat = v.toNat := by
  have := v.toNat_lt
  simp
  omega

/-! ## Through memory -/

namespace State

variable (s : State) (x : Register)

/-- What `FX33` leaves. -/
def takenApart : State :=
  { s with memory := s.memory.setAll s.index (decimal (s.registers.get x)) }

theorem execute_storeDecimal (advances : Bool) (random : UInt8) (pc : UInt16) :
    s.execute advances random pc (.storeDecimal x) = .ok (s.takenApart x) := rfl

/-- Each digit has a byte of its own. -/
theorem byteAt_takenApart {k : Nat} (digit : k < (decimal (s.registers.get x)).length) :
    (s.takenApart x).memory.byteAt (s.index.toNat + k) = (decimal (s.registers.get x))[k] :=
  Memory.byteAt_setAll _ _ (by rw [length_decimal]; decide) digit

/-- `F265` loads the digits that lie at `I`. -/
theorem get_refilled_of_digits {later : State} (index : later.index = s.index)
    (kept : ∀ k < 3, later.memory.byteAt (s.index.toNat + k)
      = (s.takenApart x).memory.byteAt (s.index.toNat + k))
    (advances : Bool) (k : Register) (digit : k.val < (decimal (s.registers.get x)).length) :
    (later.refilled advances 2).registers.get k = (decimal (s.registers.get x))[k.val] := by
  have loads : k ≤ 2 := Nat.le_of_lt_succ digit
  rw [get_refilled, if_pos loads, index, kept _ digit, byteAt_takenApart s x digit]

/-- **A number goes through memory in decimal.** `FX33` writes three bytes, those at `I`, `I + 1` and
`I + 2`, wrapped, and no other, and leaves `I` where it is. Whatever is done then, as long as `I`
and these three bytes stay, `F265` puts into the first three registers the decimal digits of the
value that `VX` had, the hundreds first, and does not change memory. No state is left out, nor any
`X` and `I`. -/
theorem decimal_round_trip (s : State) (advances : Bool) (x : Register) :
    ∃ stored : State,
      (∀ random pc, s.execute advances random pc (.storeDecimal x) = .ok stored)
        ∧ stored.index = s.index
        ∧ (∀ a, ¬ Memory.InBlock s.index.toNat 3 a →
            stored.memory.byteAt a = s.memory.byteAt a)
        ∧ ∀ later : State, later.index = s.index →
            (∀ k < 3, later.memory.byteAt (s.index.toNat + k)
              = stored.memory.byteAt (s.index.toNat + k)) →
            ∃ loaded : State,
              (∀ random pc, later.execute advances random pc (.loadRegisters 2) = .ok loaded)
                ∧ (∀ k : Register, k.val < 3 → (loaded.registers.get k).toNat ≤ 9)
                ∧ 100 * (loaded.registers.get 0).toNat + 10 * (loaded.registers.get 1).toNat
                    + (loaded.registers.get 2).toNat = (s.registers.get x).toNat
                ∧ loaded.memory = later.memory := by
  refine ⟨s.takenApart x, s.execute_storeDecimal x advances, rfl,
    fun a off => Memory.byteAt_setAll_of_not_inBlock _ _ off, fun later index kept => ?_⟩
  have digit := s.get_refilled_of_digits x index kept advances
  refine ⟨later.refilled advances 2, later.execute_loadRegisters advances 2, fun k first => ?_, ?_,
    later.refilled_memory advances 2⟩
  · rw [digit k first]
    exact decimal_le (List.getElem_mem _)
  · rw [digit 0 (show 0 < 3 by decide), digit 1 (show 1 < 3 by decide),
      digit 2 (show 2 < 3 by decide)]
    exact decimal_worth _

/-- `V1` is 254, and `I` is the largest word. -/
def largeAtTheTop : State := { initial.setRegister 1 254 with index := 0xFFFF }

/-- The hundreds lie in the last byte of memory and the others over the font, and the register that
was taken apart is loaded with one of its own digits. -/
theorem decimal_round_trip_overTheFont :
    ∃ stored : State, largeAtTheTop.execute false 0 0x200 (.storeDecimal 1) = .ok stored
      ∧ (stored.index = largeAtTheTop.index ∧ stored.memory.byteAt 2 = 0x90)
      ∧ ∃ loaded : State, stored.execute false 0 0x202 (.loadRegisters 2) = .ok loaded
          ∧ (loaded.registers.get 1).toNat ≤ 9
          ∧ 100 * (loaded.registers.get 0).toNat + 10 * (loaded.registers.get 1).toNat
              + (loaded.registers.get 2).toNat = 254 := by
  obtain ⟨stored, stores, index, others, back⟩ := decimal_round_trip largeAtTheTop false 1
  obtain ⟨loaded, loads, small, worth, -⟩ := back stored index fun _ _ => rfl
  have font := others 2 (by decide)
  exact ⟨stored, stores 0 0x200, ⟨index, font.trans (by decide +kernel)⟩, loaded, loads 0 0x202,
    small 1 (by decide), worth⟩

end State

end Chip8
