/-!
# Classes of characters

A class of characters as ranges of their numbers, in ascending order. The large classes stand in
modules of their own, named for what their characters have in common. `has_iff` says that looking a
character up finds it exactly if one of the ranges holds it, although the search stops early.
-/

set_option autoImplicit false

namespace Chip8

namespace CharClass

/-- Whether ranges, given by their first and last numbers, lie one behind the other from `start` on,
none of them empty. -/
def ascending (start : Nat) : List (Nat × Nat) → Bool
  | [] => true
  | (first, last) :: rest => start ≤ first && first ≤ last && ascending (last + 1) rest

end CharClass

/-- A class of characters: the first and the last number of each range. -/
structure CharClass where
  ranges : List (Nat × Nat)
  ordered : CharClass.ascending 0 ranges = true := by decide +kernel

namespace CharClass

/-- Whether a number is in one of some ascending ranges. The search ends at the first range that
lies beyond the number. -/
def within (n : Nat) : List (Nat × Nat) → Bool
  | [] => false
  | (first, last) :: rest => first ≤ n && (n ≤ last || within n rest)

/-- Whether a character is in the class. -/
def has (k : CharClass) (c : Char) : Bool := within c.toNat k.ranges

theorem le_of_ascending {start : Nat} {ranges : List (Nat × Nat)}
    (ordered : ascending start ranges = true) {r : Nat × Nat} (hr : r ∈ ranges) : start ≤ r.1 := by
  induction ranges generalizing start with
  | nil => cases hr
  | cons s rest ih =>
    simp only [ascending, Bool.and_eq_true, decide_eq_true_eq] at ordered
    obtain ⟨⟨above, nonempty⟩, ordered⟩ := ordered
    rcases List.mem_cons.mp hr with rfl | hr
    · exact above
    · have := ih ordered hr
      omega

/-- For ranges in ascending order the early end of the search changes nothing. -/
theorem within_iff {n start : Nat} {ranges : List (Nat × Nat)}
    (ordered : ascending start ranges = true) :
    within n ranges = true ↔ ∃ r ∈ ranges, r.1 ≤ n ∧ n ≤ r.2 := by
  induction ranges generalizing start with
  | nil => simp [within]
  | cons r rest ih =>
    simp only [ascending, Bool.and_eq_true, decide_eq_true_eq] at ordered
    obtain ⟨⟨-, nonempty⟩, ordered⟩ := ordered
    simp only [within, Bool.and_eq_true, Bool.or_eq_true, decide_eq_true_eq, ih ordered]
    constructor
    · rintro ⟨above, below | ⟨s, hs, inside⟩⟩
      · exact ⟨r, List.mem_cons_self, above, below⟩
      · exact ⟨s, List.mem_cons_of_mem _ hs, inside⟩
    · rintro ⟨s, hs, above, below⟩
      rcases List.mem_cons.mp hs with rfl | hs
      · exact ⟨above, .inl below⟩
      · -- a number of a later range lies above this one as well, so the search goes on
        have beyond := le_of_ascending ordered hs
        exact ⟨by omega, .inr ⟨s, hs, above, below⟩⟩

/-- **Looking a character up finds it exactly if one of the ranges holds it.** -/
theorem has_iff (k : CharClass) (c : Char) :
    k.has c = true ↔ ∃ r ∈ k.ranges, r.1 ≤ c.toNat ∧ c.toNat ≤ r.2 :=
  within_iff k.ordered

end CharClass

end Chip8
