/-!
# The call stack

Sixteen slots for return addresses, filled from the bottom. A return leaves the address in its
slot: only `depth` moves. The calls that are pending are therefore the first `depth` slots, and
what lies above them is what earlier calls left behind.

Seen through `pending` the stack is a list: `pending_push?` adds an address at its end and
`pending_pop?` takes it off again. A call is refused by a full stack only, and a return by an empty
one only.
-/

set_option autoImplicit false

namespace Chip8

structure CallStack where
  slots : Vector UInt16 16
  /-- how many calls are pending; also the number of the next free slot -/
  depth : Nat
  depth_le : depth ≤ 16 := by decide
  deriving DecidableEq

namespace CallStack

def empty : CallStack := ⟨Vector.replicate 16 0, 0, by decide⟩

/-- The return addresses of the pending calls, oldest first. -/
def pending (s : CallStack) : List UInt16 := s.slots.toList.take s.depth

/-- Enters a call; `none` if all sixteen slots are taken. -/
def push? (s : CallStack) (addr : UInt16) : Option CallStack :=
  if h : s.depth < 16 then some ⟨s.slots.set s.depth addr, s.depth + 1, h⟩ else none

/-- Leaves the newest call; `none` if there is none. -/
def pop? (s : CallStack) : Option (UInt16 × CallStack) :=
  match s with
  | ⟨_, 0, _⟩ => none
  | ⟨slots, d + 1, le⟩ => some (slots[d], ⟨slots, d, Nat.le_of_succ_le le⟩)

@[simp] theorem pending_empty : empty.pending = [] := rfl

theorem length_pending (s : CallStack) : s.pending.length = s.depth := by
  have := s.depth_le
  simp only [pending, List.length_take, Vector.length_toList]
  omega

/-- Only a full stack refuses a call. -/
theorem push?_eq_none_iff (s : CallStack) (addr : UInt16) : s.push? addr = none ↔ s.depth = 16 := by
  have := s.depth_le
  simp only [push?]
  split <;> simp <;> omega

/-- A call adds its return address to the pending ones. -/
theorem pending_push? {s t : CallStack} {addr : UInt16} (h : s.push? addr = some t) :
    t.pending = s.pending ++ [addr] := by
  simp only [push?] at h
  split at h
  · next lt =>
    cases h
    apply List.ext_getElem?
    intro i
    simp [pending, List.getElem?_take, List.getElem?_append, List.length_take]
    grind
  · simp at h

/-- Only an empty stack refuses a return. -/
theorem pop?_eq_none_iff (s : CallStack) : s.pop? = none ↔ s.depth = 0 := by
  obtain ⟨slots, depth, le⟩ := s
  cases depth <;> simp [pop?]

/-- A return takes the newest pending address. -/
theorem pending_pop? {s t : CallStack} {addr : UInt16} (h : s.pop? = some (addr, t)) :
    s.pending = t.pending ++ [addr] := by
  obtain ⟨slots, depth, le⟩ := s
  cases depth with
  | zero => simp [pop?] at h
  | succ d =>
    simp only [pop?, Option.some.injEq, Prod.mk.injEq] at h
    obtain ⟨rfl, rfl⟩ := h
    simp only [pending]
    rw [List.take_add_one]
    simp

end CallStack

end Chip8
