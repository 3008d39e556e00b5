import Chip8.Proofs.Memory.Wrapping

/-!
# Blocks that are written

`Memory.setAll` writes a block byte by byte, and each address wraps. With memory repeated without
end that is a block at `start`, `start + 1`, and so on, wherever it starts. Up to 4096 bytes have
places of their own there: each reads back as it was written (`byteAt_setAll`), a block written back
where it was read changes nothing (`setAll_block`), and off the block nothing changes in any case
(`byteAt_setAll_of_not_inBlock`).
-/

set_option autoImplicit false

namespace Chip8.Memory

/-- Whether the number names a place of the block, memory being repeated without end. -/
def InBlock (start count a : Nat) : Prop := ∃ k < count, a % 4096 = (start + k) % 4096

instance (start count a : Nat) : Decidable (InBlock start count a) :=
  inferInstanceAs (Decidable (∃ k < count, a % 4096 = (start + k) % 4096))

variable (m : Memory) (addr : UInt16)

theorem ext_byteAt {m m' : Memory} (h : ∀ a, m.byteAt a = m'.byteAt a) : m = m' := by
  obtain ⟨bytes⟩ := m
  obtain ⟨bytes'⟩ := m'
  refine congrArg Memory.mk (Vector.ext fun a inside => ?_)
  have same := h a
  simp only [byteAt, Nat.mod_eq_of_lt inside] at same
  exact same

theorem byteAt_val (a : Address) : m.byteAt a.val = m.bytes.get a := by
  simp only [byteAt, Nat.mod_eq_of_lt a.isLt]

theorem byteAt_set (value : UInt8) (a : Nat) :
    (m.set addr value).byteAt a = if addr.toNat % 4096 = a % 4096 then value else m.byteAt a := by
  have inside : addr.toNat % 4096 < 4096 := Nat.mod_lt _ (by decide)
  show (m.bytes.set (addr.toNat % 4096) value inside)[a % 4096] = _
  rw [Vector.getElem_set]
  rfl

theorem inBlock_succ {start count a : Nat} (h : InBlock (start + 1) count a) :
    InBlock start (count + 1) a := by
  obtain ⟨k, inside, place⟩ := h
  exact ⟨k + 1, Nat.succ_lt_succ inside, by rw [place]; omega⟩

/-- The next word is the next number, or the one that it wraps to. -/
theorem inBlock_toNat_add_one {count a : Nat} (h : InBlock (addr + 1).toNat count a) :
    InBlock (addr.toNat + 1) count a := by
  obtain ⟨k, inside, place⟩ := h
  refine ⟨k, inside, ?_⟩
  rw [place, UInt16.toNat_add]
  show ((addr.toNat + 1) % 65536 + k) % 4096 = _
  omega

/-- **Off the block nothing changes.** -/
theorem byteAt_setAll_of_not_inBlock {data : List UInt8} {a : Nat}
    (off : ¬ InBlock addr.toNat data.length a) : (m.setAll addr data).byteAt a = m.byteAt a := by
  induction data generalizing m addr with
  | nil => rfl
  | cons b rest ih =>
    have first : addr.toNat % 4096 ≠ a % 4096 := fun e => off ⟨0, Nat.succ_pos _, e.symm⟩
    have behind : ¬ InBlock (addr + 1).toNat rest.length a := fun h =>
      off (inBlock_succ (inBlock_toNat_add_one addr h))
    rw [setAll, ih _ _ behind, byteAt_set, if_neg first]

/-- A block of no more than 4096 bytes does not meet itself. -/
theorem byteAt_setAll {data : List UInt8} (fits : data.length ≤ 4096) {k : Nat}
    (h : k < data.length) : (m.setAll addr data).byteAt (addr.toNat + k) = data[k] := by
  induction data generalizing m addr k with
  | nil => cases h
  | cons b rest ih =>
    rw [List.length_cons] at fits h
    rw [setAll]
    cases k with
    | zero =>
      have behind : ¬ InBlock (addr + 1).toNat rest.length addr.toNat := by
        intro met
        obtain ⟨k, inside, place⟩ := inBlock_toNat_add_one addr met
        omega
      rw [Nat.add_zero, byteAt_setAll_of_not_inBlock _ _ behind, byteAt_set, if_pos rfl]
      rfl
    | succ k =>
      have next : (m.set addr b |>.setAll (addr + 1) rest).byteAt (addr.toNat + (k + 1))
          = (m.set addr b |>.setAll (addr + 1) rest).byteAt ((addr + 1).toNat + k) := by
        apply byteAt_congr
        rw [UInt16.toNat_add]
        show _ = ((addr.toNat + 1) % 65536 + k) % 4096
        omega
      rw [next, ih _ _ (by omega) (by omega)]
      rfl

theorem length_block (start count : Nat) : (m.block start count).length = count := by
  simp [block]

theorem getElem_block {start count k : Nat} (h : k < (m.block start count).length) :
    (m.block start count)[k] = m.byteAt (start + k) := by
  simp [block]

/-- **What is read can be written back**, and nothing changes. -/
theorem setAll_block {count : Nat} (fits : count ≤ 4096) :
    m.setAll addr (m.block addr.toNat count) = m := by
  apply ext_byteAt
  intro a
  have length := m.length_block addr.toNat count
  by_cases inside : InBlock addr.toNat count a
  · obtain ⟨k, h, place⟩ := inside
    rw [byteAt_congr _ place, byteAt_setAll m addr (by omega) (by omega), getElem_block,
      byteAt_congr m place]
  · exact byteAt_setAll_of_not_inBlock m addr (by rw [length]; exact inside)

end Chip8.Memory
