import Chip8.Memory

/-!
# Writing a block, or none of it

`Memory.write` gives back a new memory or an error, so an error that has changed something cannot
even be said of it. `InPlace.write` does the same in place, on bytes that stay changed whatever
comes of the attempt: it checks that there is room, takes the stretch of bytes that is to be
written, and copies one byte after the other. `run_write` says that the two are one: where
`Memory.write` refuses, nothing has been copied.

When it refuses is said in numbers (`write_exact`). The room is what is left from the address on,
and none past the end. Data that fits is written, and data that does not is refused, for its length;
except that nothing at all, which always fits, is refused past the end, and not in the same way: the
stretch is taken at the address itself, and there is no such stretch
(`nothing_written_past_the_end`).
-/

set_option autoImplicit false

namespace Chip8

namespace Memory

/-- What is laid over memory replaces that many bytes, and no others. -/
theorem toList_overlay (m : Memory) {start : Nat} {data : List UInt8}
    (fits : start + data.length ≤ 4096) :
    (m.overlay start data).bytes.toList
      = m.bytes.toList.take start ++ data ++ m.bytes.toList.drop (start + data.length) := by
  induction data generalizing m start with
  | nil => simp [overlay]
  | cons b rest ih =>
    rw [List.length_cons] at fits
    -- the first byte ends the part before the rest, and the part after it stays where it is
    have inside : start < m.bytes.toList.length := by rw [Vector.length_toList]; omega
    have replaced : (m.bytes.setIfInBounds start b).toList = m.bytes.toList.set start b := by
      simp
    have first : (m.bytes.toList.set start b).take (start + 1)
        = m.bytes.toList.take start ++ [b] := by
      rw [List.take_succ_eq_append_getElem (by simpa using inside), List.getElem_set_self,
        List.take_set_of_le (Nat.le_refl start)]
    have beyond : (m.bytes.toList.set start b).drop (start + 1 + rest.length)
        = m.bytes.toList.drop (start + (rest.length + 1)) := by
      rw [List.drop_set_of_lt (by omega)]
      congr 1
      omega
    rw [overlay, ih _ (by omega), replaced, first, beyond]
    simp

end Memory

/-! ## In place -/

/-- An attempt on bytes in place. It ends with an answer or an error, and either way with the bytes
as it leaves them. -/
abbrev InPlace (α : Type) := EStateM Error (Array UInt8) α

namespace InPlace

/-- Makes sure that the bytes have this stretch. -/
def stretch (start length : Nat) : InPlace Unit := do
  if (← get).size < start + length then throw (.outOfRange start length)

/-- One byte after the other. -/
def copy (start : Nat) : List UInt8 → InPlace Unit
  | [] => pure ()
  | b :: rest => do
    modify fun bytes => bytes.setIfInBounds start b
    copy (start + 1) rest

/-- Writes a block, refusing one that would run off the end. -/
def write (data : List UInt8) (addr : UInt16) : InPlace Unit := do
  let room := (← get).size - addr.toNat
  if room < data.length then throw (.romTooLarge data.length room)
  stretch addr.toNat data.length
  copy addr.toNat data

/-- Writes all that `source` yields, and says how many bytes that were. -/
def writeFrom (source : Source) (addr : UInt16) : InPlace Nat := do
  let data ← match source.read with
    | .ok data => pure data
    | .error e => throw e
  write data addr
  return data.length

/-- What an attempt on the bytes of `m` comes to: the answer with the new bytes, or the error with
the old ones. -/
def allOrNothing {α : Type} (m : Memory) :
    Except Error (α × Memory) → EStateM.Result Error (Array UInt8) α
  | .ok (a, written) => .ok a written.bytes.toArray
  | .error e => .error e m.bytes.toArray

theorem run_copy (m : Memory) (start : Nat) (data : List UInt8) :
    (copy start data).run m.bytes.toArray = .ok () (m.overlay start data).bytes.toArray := by
  induction data generalizing m start with
  | nil => rfl
  | cons b rest ih =>
    have replaced : m.bytes.toArray.setIfInBounds start b
        = (m.bytes.setIfInBounds start b).toArray := by simp
    show (copy (start + 1) rest).run (m.bytes.toArray.setIfInBounds start b) = _
    rw [replaced]
    exact ih ⟨m.bytes.setIfInBounds start b⟩ (start + 1)

/-- **In place, a write is all or nothing.** -/
theorem run_write (m : Memory) (data : List UInt8) (addr : UInt16) :
    (write data addr).run m.bytes.toArray
      = allOrNothing m ((m.write data addr).map fun written => ((), written)) := by
  have size : m.bytes.toArray.size = 4096 := m.bytes.size_toArray
  by_cases short : 4096 - addr.toNat < data.length
  · have refused : m.write data addr = .error (.romTooLarge data.length (4096 - addr.toNat)) :=
      if_pos short
    rw [refused]
    simp [write, size, short, allOrNothing, Except.map]
  · by_cases beyond : 4096 < addr.toNat
    · have refused : m.write data addr = .error (.outOfRange addr.toNat data.length) :=
        (if_neg short).trans (if_pos beyond)
      have missing : 4096 < addr.toNat + data.length := by omega
      rw [refused]
      simp [write, stretch, size, short, missing, allOrNothing, Except.map]
    · have written : m.write data addr = .ok (m.overlay addr.toNat data) :=
        (if_neg short).trans (if_neg beyond)
      have there : ¬ 4096 < addr.toNat + data.length := by omega
      rw [written]
      simp [write, stretch, size, short, there, run_copy, allOrNothing, Except.map]

/-- The same for all that a source yields. A source that fails has copied nothing, either. -/
theorem run_writeFrom (m : Memory) (source : Source) (addr : UInt16) :
    (writeFrom source addr).run m.bytes.toArray = allOrNothing m (m.writeFrom source addr) := by
  unfold writeFrom Memory.writeFrom
  cases source.read with
  | error e => rfl
  | ok data =>
    have copied := run_write m data addr
    show EStateM.run (write data addr >>= fun _ => pure data.length) _
      = allOrNothing m (m.write data addr >>= fun written => pure (data.length, written))
    rw [EStateM.run_bind, copied]
    cases m.write data addr <;> rfl

end InPlace

/-! ## When a write is refused -/

namespace Memory

/-- A source that yields all its bytes is written as these bytes are; one that fails is not written.
-/
theorem writeFrom_eq (m : Memory) (source : Source) (addr : UInt16) :
    m.writeFrom source addr =
      match source.failure with
      | some reason => .error (.io reason)
      | none => (m.write source.bytes addr).map fun written => (source.bytes.length, written) := by
  unfold writeFrom Source.read
  cases source.failure with
  | some reason => rfl
  | none =>
    show (m.write source.bytes addr >>= fun written => pure (source.bytes.length, written)) = _
    cases m.write source.bytes addr <;> rfl

/-- **A write is refused exactly where there is no room**, and for the room there is. Whatever is
refused has changed nothing, in place as well. Data that ends in memory takes the place of as many
bytes, and no others; data that does not is too large for what is left from the address on. An empty
block past the end is neither: it is refused, though nothing of it runs off the end. A source is
written as its bytes are, unless it fails; then it does not matter how many bytes came before that.
-/
theorem write_exact (m : Memory) (data : List UInt8) (addr : UInt16) :
    (InPlace.write data addr).run m.bytes.toArray
        = InPlace.allOrNothing m ((m.write data addr).map fun written => ((), written))
      ∧ (addr.toNat + data.length ≤ 4096 → ∃ written : Memory, m.write data addr = .ok written
          ∧ written.bytes.toList = m.bytes.toList.take addr.toNat ++ data
            ++ m.bytes.toList.drop (addr.toNat + data.length))
      ∧ (4096 < addr.toNat + data.length → data ≠ [] →
          m.write data addr = .error (.romTooLarge data.length (4096 - addr.toNat)))
      ∧ (4096 < addr.toNat → data = [] → m.write data addr = .error (.outOfRange addr.toNat 0))
      ∧ ∀ source : Source, source.bytes = data →
          (InPlace.writeFrom source addr).run m.bytes.toArray
              = InPlace.allOrNothing m (m.writeFrom source addr)
            ∧ (∀ reason, source.failure = some reason →
                m.writeFrom source addr = .error (.io reason))
            ∧ (source.failure = none →
                m.writeFrom source addr
                  = (m.write data addr).map fun written => (data.length, written)) := by
  refine ⟨InPlace.run_write m data addr, fun fits => ?_, fun long some => ?_,
    fun beyond none => ?_, ?_⟩
  -- two tests stand before the copy: of the room that is left, which is none past the end, and of
  -- the address, which only an empty block comes to
  · have room : ¬ 4096 - addr.toNat < data.length := by omega
    have inside : ¬ 4096 < addr.toNat := by omega
    exact ⟨_, (if_neg room).trans (if_neg inside), toList_overlay m fits⟩
  · have length := List.length_pos_iff.mpr some
    have short : 4096 - addr.toNat < data.length := by omega
    exact if_pos short
  · subst none
    simp only [write, size, List.length_nil, Nat.not_lt_zero, if_false]
    exact if_pos beyond
  · rintro source rfl
    refine ⟨InPlace.run_writeFrom m source addr, fun reason fails => ?_, fun reads => ?_⟩
    · rw [writeFrom_eq, fails]
    · rw [writeFrom_eq, reads]

/-- Eight bytes end with memory, one place further they are one too many, and a source that fails
after them has written none of them. -/
theorem write_exact_atTheEnd :
    (∃ written, initial.write (List.replicate 8 0xAA) 4088 = .ok written)
      ∧ initial.write (List.replicate 8 0xAA) 4089 = .error (.romTooLarge 8 7)
      ∧ (InPlace.write (List.replicate 8 0xAA) 4089).run initial.bytes.toArray
        = .error (.romTooLarge 8 7) initial.bytes.toArray
      ∧ (InPlace.writeFrom ⟨List.replicate 8 0xAA, some "gone"⟩ 4088).run initial.bytes.toArray
        = .error (.io "gone") initial.bytes.toArray := by
  obtain ⟨-, fits, -, -, sources⟩ := write_exact initial (List.replicate 8 0xAA) 4088
  obtain ⟨inPlace, -, long, -⟩ := write_exact initial (List.replicate 8 0xAA) 4089
  obtain ⟨written, here, -⟩ := fits (by decide)
  have refused := long (by decide) (by decide)
  obtain ⟨source, fails, -⟩ := sources ⟨List.replicate 8 0xAA, some "gone"⟩ rfl
  rw [refused] at inPlace
  rw [fails "gone" rfl] at source
  exact ⟨⟨written, here⟩, refused, inPlace, source⟩

/-- A block of no bytes has room everywhere. One address past the end of memory it is refused all
the same, and not for its size. -/
theorem nothing_written_past_the_end :
    ([] : List UInt8).length ≤ size - (4097 : UInt16).toNat
      ∧ initial.write [] 4097 = .error (.outOfRange 4097 0)
      ∧ ¬ ∃ written, initial.write [] 4097 = .ok written := by
  have refused : initial.write [] 4097 = .error (.outOfRange 4097 0) := rfl
  refine ⟨Nat.zero_le _, refused, fun ⟨written, here⟩ => ?_⟩
  rw [refused] at here
  cases here

end Memory

end Chip8
