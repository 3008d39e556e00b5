import Chip8.Proofs.Interpreter.Bounds

/-!
# A sprite that stops at the edges

`Drawing.flipRows` goes through all the columns and rows of a sprite and leaves out the pixels that
the screen does not have. `Blit.draw?` goes through them the way a loop does. It computes the column
of a pixel only where the sprite has a bit, ends the row at the first such column right of the
screen, and ends the sprite at the first row below it. A pixel is looked up by its place and passed
over if there is none.

The two draw the same (`draw?_toBytes`), because nothing that comes after an exit would be on the
screen. The sums are the one difference. They are sums of machine words, and a sum that is no word
has no answer. The row of a pixel always has one, since the loop ends before it gets far. Its column
has none for a sprite that begins in one of the last seven columns of all, and `draw?_eq_none_iff`
says for which.
-/

set_option autoImplicit false

namespace Chip8

namespace Blit

/-- A sum of machine words, if it is one. -/
def sum? (a b : Nat) : Option Nat := if a + b < Nat.pow 2 64 then some (a + b) else none

/-- Turns over the pixel kept at a place, if there is one. -/
def turn (d : Array UInt8 × Bool) (place : Nat) : Array UInt8 × Bool :=
  match d.1[place]? with
  | none => d
  | some lit => (d.1.setIfInBounds place (lit ^^^ 1), d.2 || lit == 1)

/-- The columns of one sprite row, left to right. -/
def columns? (x py : Nat) (bits : UInt8) (d : Array UInt8 × Bool) :
    List Nat → Option (Array UInt8 × Bool)
  | [] => return d
  | column :: rest =>
    if bits.toNat.testBit (7 - column) then do
      let px ← sum? x column
      -- right of the screen: the row ends here
      if 64 ≤ px then return d
      columns? x py bits (turn d (py * 64 + px)) rest
    else columns? x py bits d rest

/-- The rows of a sprite from number `row` on, the top one first. -/
def rows? (x y row : Nat) (d : Array UInt8 × Bool) : List UInt8 → Option (Array UInt8 × Bool)
  | [] => return d
  | bits :: below => do
    let py ← sum? y row
    -- below the screen: the sprite ends here
    if 32 ≤ py then return d
    let d ← columns? x py bits d (List.range 8)
    rows? x y (row + 1) d below

/-- Draws a sprite with its top left corner at column `x` of row `y`. There is no answer if a column
that is needed has no number. -/
def draw? (pixels : Array UInt8) (x y : Nat) (sprite : List UInt8) :
    Option (Array UInt8 × Bool) :=
  rows? x y 0 (pixels, false) sprite

theorem sum?_eq_some {a b : Nat} (word : a + b < Nat.pow 2 64) : sum? a b = some (a + b) :=
  if_pos word

theorem sum?_eq_none {a b : Nat} (large : Nat.pow 2 64 ≤ a + b) : sum? a b = none :=
  if_neg (Nat.not_lt.mpr large)

end Blit

/-! ## The same drawing -/

/-- A place that has a pixel is looked up and written without straying. -/
theorem Blit.flip_eq_turn {d : Array UInt8 × Bool} {x y : Nat} (across : x < 64) (down : y < 32)
    (inside : y * 64 + x < d.1.size) : ArrayState.flip d x y = .ok (turn d (y * 64 + x)) := by
  have found : d.1[y * 64 + x]? = some d.1[y * 64 + x] := Array.getElem?_eq_getElem inside
  have looked : Stray.look .pixel d.1 (y * 64 + x) = .ok d.1[y * 64 + x] := by
    rw [Stray.look, found]
  have written (value : UInt8) : Stray.put .pixel d.1 (y * 64 + x) value
      = .ok (d.1.setIfInBounds (y * 64 + x) value) := by
    rw [Stray.put, dif_pos inside, Array.setIfInBounds, dif_pos inside]
  rw [ArrayState.flip, if_pos ⟨across, down⟩, looked, Stray.ok_bind, written, Stray.ok_bind, turn,
    found]
  rfl

namespace FrameBuffer.Drawing

open Blit

theorem turn_toBytes (d : Drawing) {x y : Nat} (across : x < 64) (down : y < 32) :
    turn d.toBytes (y * 64 + x) = (d.flip x y).toBytes := by
  have inside : y * 64 + x < d.toBytes.1.size := by
    show _ < d.frame.toBytes.toArray.size
    rw [toBytes_toArray, Vector.size_toArray]
    omega
  -- where there is a pixel, looking it up and insisting on it come to the same
  have same := flip_eq_turn across down inside
  rw [flip_toBytes] at same
  exact (Except.ok.inj same).symm

/-- Columns that the screen does not have are as good as none. -/
theorem columns_outside (d : Drawing) {x y : Nat} (bits : UInt8) {columns : List Nat}
    (outside : ∀ column ∈ columns, ¬ (x + column < 64 ∧ y < 32)) :
    columns.foldl
      (fun d column => if bits.toNat.testBit (7 - column) then d.flip (x + column) y else d) d
      = d := by
  induction columns with
  | nil => rfl
  | cons column rest ih =>
    have still : d.flip (x + column) y = d := dif_neg (outside column List.mem_cons_self)
    rw [List.foldl_cons, still, ite_self]
    exact ih fun column' here => outside column' (List.mem_cons_of_mem _ here)

theorem columns?_toBytes (d : Drawing) {x y : Nat} (bits : UInt8) {columns : List Nat}
    (ascending : columns.Pairwise (· < ·)) (words : ∀ column ∈ columns, x + column < Nat.pow 2 64)
    (down : y < 32) :
    columns? x y bits d.toBytes columns = some (columns.foldl
      (fun d column => if bits.toNat.testBit (7 - column) then d.flip (x + column) y else d)
        d).toBytes := by
  induction columns generalizing d with
  | nil => rfl
  | cons column rest ih =>
    obtain ⟨later, ascending⟩ := List.pairwise_cons.mp ascending
    have word := words column List.mem_cons_self
    have words' : ∀ column' ∈ rest, x + column' < Nat.pow 2 64 :=
      fun column' here => words column' (List.mem_cons_of_mem _ here)
    rw [columns?]
    split
    · next bit =>
      rw [sum?_eq_some word, List.foldl_cons, if_pos bit]
      by_cases across : x + column < 64
      · show (if 64 ≤ x + column then _ else _) = _
        rw [if_neg (Nat.not_le.mpr across), turn_toBytes d across down]
        exact ih _ ascending words'
      · -- the loop ends here, and the columns that it leaves out are further right
        have beyond : ∀ column' ∈ column :: rest, ¬ (x + column' < 64 ∧ y < 32) := by
          intro column' here
          rcases List.mem_cons.mp here with rfl | here
          · omega
          · have := later column' here
            omega
        have ended := d.columns_outside bits beyond
        rw [List.foldl_cons, if_pos bit] at ended
        show (if 64 ≤ x + column then _ else _) = _
        rw [if_pos (Nat.not_lt.mp across), ended]
        rfl
    · next unset =>
      rw [List.foldl_cons, if_neg unset]
      exact ih _ ascending words'

/-- Rows below the screen flip nothing. -/
theorem flipRows_below (d : Drawing) (x : Nat) {y : Nat} (sprite : List UInt8) (below : 32 ≤ y) :
    d.flipRows x y sprite = d := by
  induction sprite generalizing d y with
  | nil => rfl
  | cons bits rest ih =>
    have row : d.flipRow x y bits = d := d.columns_outside bits fun column _ => by omega
    rw [flipRows, row]
    exact ih d (Nat.le_succ_of_le below)

theorem rows?_toBytes (d : Drawing) {x y row : Nat} (sprite : List UInt8)
    (left : x + 7 < Nat.pow 2 64) (top : y + row < Nat.pow 2 64) :
    rows? x y row d.toBytes sprite = some (d.flipRows x (y + row) sprite).toBytes := by
  induction sprite generalizing d row with
  | nil => rfl
  | cons bits below ih =>
    rw [rows?, sum?_eq_some top]
    show (if 32 ≤ y + row then _ else _) = _
    by_cases down : y + row < 32
    · have words : ∀ column ∈ List.range 8, x + column < Nat.pow 2 64 := by
        intro column here
        have := List.mem_range.mp here
        omega
      -- the next row is at most the first one below the screen, so its number is a word again
      have next : y + (row + 1) < Nat.pow 2 64 :=
        Nat.lt_of_le_of_lt (show y + (row + 1) ≤ 32 by omega) (by decide)
      rw [if_neg (Nat.not_le.mpr down),
        columns?_toBytes d bits List.pairwise_lt_range words down]
      exact ih (d.flipRow x (y + row) bits) next
    · rw [if_pos (Nat.not_lt.mp down), flipRows_below d x _ (Nat.not_lt.mp down)]
      rfl

end FrameBuffer.Drawing

open Blit

/-- **A loop with exits draws the sprite**, wherever its last column has a number. -/
theorem FrameBuffer.draw?_toBytes (f : FrameBuffer) {x y : Nat} (sprite : List UInt8)
    (left : x + 7 < Nat.pow 2 64) (top : y < Nat.pow 2 64) :
    draw? f.toBytes.toArray x y sprite = some (f.drawSprite x y sprite).toBytes :=
  Drawing.rows?_toBytes ⟨f, false⟩ sprite left top

/-! ## Where there is no answer -/

namespace Blit

/-- Of the columns of a sprite row whose left end is at column `x`, some have a bit, and none of
those has a number. -/
def Unnumbered (x : Nat) (bits : UInt8) (columns : List Nat) : Prop :=
  (∃ column ∈ columns, bits.toNat.testBit (7 - column) = true)
    ∧ ∀ column ∈ columns, bits.toNat.testBit (7 - column) = true → Nat.pow 2 64 ≤ x + column

theorem unnumbered_cons_unset {x column : Nat} {bits : UInt8} {rest : List Nat}
    (unset : ¬ bits.toNat.testBit (7 - column) = true) :
    Unnumbered x bits (column :: rest) ↔ Unnumbered x bits rest := by
  simp [Unnumbered, unset]

theorem columns?_eq_none_iff (x py : Nat) (bits : UInt8) (d : Array UInt8 × Bool)
    {columns : List Nat} (ascending : columns.Pairwise (· < ·))
    (narrow : ∀ column ∈ columns, column < 8) :
    columns? x py bits d columns = none ↔ Unnumbered x bits columns := by
  induction columns generalizing d with
  | nil => simp [columns?, Unnumbered]
  | cons column rest ih =>
    obtain ⟨later, ascending⟩ := List.pairwise_cons.mp ascending
    obtain ⟨-, narrow⟩ := List.forall_mem_cons.mp narrow
    rw [columns?]
    split
    · next bit =>
      by_cases word : x + column < Nat.pow 2 64
      · -- a column that has a number settles the row: it ends there, or all its columns have one
        have numbered : ¬ Unnumbered x bits (column :: rest) := fun unnumbered =>
          absurd word (Nat.not_lt.mpr (unnumbered.2 column List.mem_cons_self bit))
        rw [sum?_eq_some word]
        refine iff_of_false ?_ numbered
        show ¬ (if 64 ≤ x + column then some d
          else columns? x py bits (turn d (py * 64 + (x + column))) rest) = none
        split
        · exact Option.some_ne_none d
        · rw [ih _ ascending narrow]
          rintro ⟨⟨column', here, bit'⟩, large⟩
          have inside : x + column' < 72 := by
            have := narrow column' here
            omega
          exact absurd (Nat.lt_trans inside (by decide)) (Nat.not_lt.mpr (large column' here bit'))
      · have large : Nat.pow 2 64 ≤ x + column := Nat.not_lt.mp word
        rw [sum?_eq_none large]
        refine iff_of_true rfl ⟨⟨column, List.mem_cons_self, bit⟩, fun column' here _ => ?_⟩
        rcases List.mem_cons.mp here with rfl | here
        · exact large
        · exact Nat.le_trans large (Nat.add_le_add_left (Nat.le_of_lt (later column' here)) x)
    · next unset =>
      rw [unnumbered_cons_unset unset]
      exact ih _ ascending narrow

theorem rows?_eq_none_iff (x y row : Nat) (d : Array UInt8 × Bool) (sprite : List UInt8)
    (top : y + row < Nat.pow 2 64) :
    rows? x y row d sprite = none
      ↔ ∃ bits ∈ sprite.take (32 - (y + row)), Unnumbered x bits (List.range 8) := by
  induction sprite generalizing d row with
  | nil => simp [rows?]
  | cons bits below ih =>
    rw [rows?, sum?_eq_some top]
    show (if 32 ≤ y + row then some d else
      columns? x (y + row) bits d (List.range 8) >>= fun d => rows? x y (row + 1) d below) = none
        ↔ _
    by_cases down : y + row < 32
    · have room : 32 - (y + row) = 32 - (y + (row + 1)) + 1 := by omega
      have next : y + (row + 1) < Nat.pow 2 64 :=
        Nat.lt_of_le_of_lt (show y + (row + 1) ≤ 32 by omega) (by decide)
      have first := columns?_eq_none_iff x (y + row) bits d List.pairwise_lt_range
        fun _ here => List.mem_range.mp here
      rw [if_neg (Nat.not_le.mpr down), room, List.take_succ_cons]
      simp only [List.mem_cons, exists_eq_or_imp]
      cases drawn : columns? x (y + row) bits d (List.range 8) with
      | none => exact iff_of_true rfl (.inl (first.mp drawn))
      | some d' =>
        have numbered : ¬ Unnumbered x bits (List.range 8) := fun unnumbered => by
          rw [first.mpr unnumbered] at drawn
          cases drawn
        rw [or_iff_right numbered]
        exact ih (row + 1) d' next
    · have room : 32 - (y + row) = 0 := by omega
      rw [if_pos (Nat.not_lt.mp down), room]
      simp

/-- **A sprite has no answer exactly if it needs a column that has no number**: one of its rows that
are on the screen has pixels, and the leftmost of them already lies past the last number. -/
theorem draw?_eq_none_iff (pixels : Array UInt8) (x : Nat) {y : Nat} (sprite : List UInt8)
    (top : y < Nat.pow 2 64) :
    draw? pixels x y sprite = none
      ↔ ∃ bits ∈ sprite.take (32 - y), Unnumbered x bits (List.range 8) :=
  rows?_eq_none_iff x y 0 (pixels, false) sprite top

end Blit

end Chip8
