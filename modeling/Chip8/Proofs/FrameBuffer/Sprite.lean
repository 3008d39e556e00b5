import Mathlib.Data.List.Nodup
import Chip8.Proofs.Interpreter.Bounds

/-!
# What a sprite does to the screen

A sprite is drawn pixel by pixel, and what falls outside the screen is left out on the way. This
file says what comes of it as a whole: the pixels that the sprite covers are flipped, no others are,
and there is a collision if one of them was lit (`drawSprite_pointwise`).

Which pixels those are is said by `covers`, by the place of a pixel relative to the sprite's corner.
It knows nothing of rows that are kept one after the other: that a column past the right edge is not
taken for one of the next row is part of what is proved.

Drawing goes through intermediate drawings, so the lemmas are about one drawing and a later one, and
the set of pixels that was flipped in between (`Drawn`). Such stretches are put together
(`Drawn.trans`) if no pixel is flipped in both. That is why collisions can be looked for in the
drawing that was there at first: nothing that one part of the sprite lit is put out by another.
-/

set_option autoImplicit false

namespace Chip8.FrameBuffer

/-! ## Pixels by column and row -/

theorem index_lt (c : Fin 64) (r : Fin 32) : index c r < 2048 := by
  simp only [index, width]
  omega

theorem index_inj {c c' : Fin 64} {r r' : Fin 32} :
    index c r = index c' r' ↔ c = c' ∧ r = r' := by
  simp only [index, width]
  omega

/-- Whether the pixel in column `c` of row `r` is lit. -/
def lit (f : FrameBuffer) (c : Fin 64) (r : Fin 32) : Bool := f.pixels.get ⟨index c r, index_lt c r⟩

theorem pixel?_eq_lit (f : FrameBuffer) (c : Fin 64) (r : Fin 32) :
    f.pixel? c r = some (f.lit c r) :=
  Vector.getElem?_eq_getElem (index_lt c r)

/-- There are no pixels but those in some column of some row. -/
theorem ext_lit {f g : FrameBuffer} (h : ∀ c r, f.lit c r = g.lit c r) : f = g := by
  obtain ⟨pixels⟩ := f
  obtain ⟨pixels'⟩ := g
  congr 1
  apply Vector.ext
  intro k hk
  have place : index (k % 64) (k / 64) = k := by
    simp only [index, width]
    omega
  have inside : index (k % 64) (k / 64) < 2048 := by rwa [place]
  have same : pixels[index (k % 64) (k / 64)] = pixels'[index (k % 64) (k / 64)] :=
    h ⟨k % 64, by omega⟩ ⟨k / 64, by omega⟩
  simpa only [place] using same

theorem length_toBytes (f : FrameBuffer) : f.toBytes.length = 2048 := by
  simp [toBytes]

/-! ## The pixels that a sprite covers -/

/-- Whether a sprite whose top left corner is at column `x` of row `y` flips the pixel in column `c`
of row `r`. -/
def covers (x y : Nat) (sprite : List UInt8) (c r : Nat) : Bool :=
  if h : (x ≤ c ∧ c < x + 8) ∧ y ≤ r ∧ r < y + sprite.length then
    (sprite.get ⟨r - y, by omega⟩).toNat.testBit (7 - (c - x))
  else false

/-- Whether one row of a sprite, its left end at column `x`, has a bit for column `c`. -/
def rowCovers (x : Nat) (bits : UInt8) (c : Nat) : Bool :=
  decide (x ≤ c ∧ c < x + 8) && bits.toNat.testBit (7 - (c - x))

theorem covers_nil (x y c r : Nat) : covers x y [] c r = false := by
  rw [covers, dif_neg]
  simp only [List.length_nil]
  omega

theorem covers_of_row_lt {x y c r : Nat} {sprite : List UInt8} (h : r < y) :
    covers x y sprite c r = false := by
  rw [covers, dif_neg]
  omega

/-- The first row covers pixels of one screen row, and the rest of the sprite those below. -/
theorem covers_cons (x y : Nat) (bits : UInt8) (below : List UInt8) (c r : Nat) :
    covers x y (bits :: below) c r
      = if r = y then rowCovers x bits c else covers x (y + 1) below c r := by
  by_cases row : r = y
  · subst row
    rw [if_pos rfl, covers, rowCovers]
    by_cases across : x ≤ c ∧ c < x + 8
    · rw [dif_pos ⟨across, by simp⟩, decide_eq_true across, Bool.true_and]
      simp
    · rw [dif_neg fun inside => across inside.1, decide_eq_false across, Bool.false_and]
  · rw [if_neg row, covers, covers]
    by_cases inside : (x ≤ c ∧ c < x + 8) ∧ y + 1 ≤ r ∧ r < y + 1 + below.length
    · have next : r - y = (r - (y + 1)) + 1 := by omega
      rw [dif_pos inside, dif_pos (by simp only [List.length_cons]; omega)]
      simp [next]
    · rw [dif_neg inside, dif_neg (by simp only [List.length_cons]; omega)]

/-! ## Stretches of drawing -/

namespace Drawing

/-- From `d` to `d'` the pixels in `flipped` were flipped, each once, and no others. -/
structure Drawn (d d' : Drawing) (flipped : Fin 64 → Fin 32 → Bool) : Prop where
  lit : ∀ c r, d'.frame.lit c r = (d.frame.lit c r ^^ flipped c r)
  collision : d'.collision = true
    ↔ d.collision = true ∨ ∃ c r, flipped c r = true ∧ d.frame.lit c r = true

namespace Drawn

variable {d d' d'' : Drawing} {flipped flipped' : Fin 64 → Fin 32 → Bool}

theorem refl (d : Drawing) : Drawn d d fun _ _ => false :=
  ⟨fun c r => (Bool.xor_false _).symm, by simp⟩

/-- Two stretches that flip no pixel twice are one. -/
theorem trans (h : Drawn d d' flipped) (h' : Drawn d' d'' flipped')
    (disjoint : ∀ c r, flipped c r = true → flipped' c r = false) :
    Drawn d d'' fun c r => flipped c r || flipped' c r := by
  refine ⟨fun c r => ?_, ?_⟩
  · rw [h'.lit, h.lit]
    cases first : flipped c r with
    | false => simp
    | true => simp [disjoint c r first]
  · -- what the second stretch finds lit was lit at first
    have found : (∃ c r, flipped' c r = true ∧ d'.frame.lit c r = true)
        ↔ ∃ c r, flipped' c r = true ∧ d.frame.lit c r = true := by
      refine exists_congr fun c => exists_congr fun r => and_congr_right fun second => ?_
      have untouched : flipped c r = false := by
        cases first : flipped c r with
        | false => rfl
        | true => rw [disjoint c r first] at second; cases second
      rw [h.lit, untouched, Bool.xor_false]
    rw [h'.collision, h.collision, found]
    simp only [Bool.or_eq_true, or_and_right, exists_or, or_assoc]

theorem congr (h : Drawn d d' flipped) (same : ∀ c r, flipped c r = flipped' c r) :
    Drawn d d' flipped' := by
  rwa [show flipped = flipped' from funext fun c => funext (same c)] at h

end Drawn

theorem flip_inside (d : Drawing) (c : Fin 64) (r : Fin 32) :
    d.flip c r = ⟨⟨d.frame.pixels.set (index c r) (!d.frame.lit c r) (index_lt c r)⟩,
      d.collision || d.frame.lit c r⟩ :=
  dif_pos ⟨c.isLt, r.isLt⟩

theorem drawn_flip_inside (d : Drawing) (c : Fin 64) (r : Fin 32) :
    Drawn d (d.flip c r) fun c' r' => decide (c = c' ∧ r = r') := by
  rw [flip_inside]
  refine ⟨fun c' r' => ?_, ?_⟩
  · have place := index_lt c' r'
    show (d.frame.pixels.set (index c r) (!d.frame.lit c r) (index_lt c r))[index c' r']
      = (d.frame.lit c' r' ^^ decide (c = c' ∧ r = r'))
    rw [Vector.getElem_set]
    -- two pixels are kept at the same place only if they are the same pixel
    by_cases here : c = c' ∧ r = r'
    · obtain ⟨rfl, rfl⟩ := here
      simp
    · have elsewhere : index c r ≠ index c' r' := fun same => here (index_inj.mp same)
      rw [if_neg elsewhere, decide_eq_false here, Bool.xor_false]
      rfl
  · simp [and_assoc]

theorem drawn_flip (d : Drawing) (x y : Nat) :
    Drawn d (d.flip x y) fun c r => decide (x = c ∧ y = r) := by
  by_cases inside : x < 64 ∧ y < 32
  · refine (d.drawn_flip_inside ⟨x, inside.1⟩ ⟨y, inside.2⟩).congr fun c r => ?_
    simp only [Fin.ext_iff]
  · -- outside the screen nothing is flipped
    have still : d.flip x y = d := dif_neg inside
    rw [still]
    refine (Drawn.refl d).congr fun c r => ?_
    have elsewhere : ¬ (x = c ∧ y = r) := by omega
    rw [decide_eq_false elsewhere]

/-- The pixels that some columns of a sprite row cover. -/
def columnsCover (x y : Nat) (bits : UInt8) (columns : List Nat) (c r : Nat) : Bool :=
  columns.any fun column => bits.toNat.testBit (7 - column) && decide (x + column = c ∧ y = r)

theorem drawn_columns (d : Drawing) (x y : Nat) (bits : UInt8) {columns : List Nat}
    (nodup : columns.Nodup) :
    Drawn d
      (columns.foldl
        (fun d column => if bits.toNat.testBit (7 - column) then d.flip (x + column) y else d) d)
      fun c r => columnsCover x y bits columns c r := by
  induction columns generalizing d with
  | nil => exact Drawn.refl d
  | cons column columns ih =>
    obtain ⟨new, nodup⟩ := List.nodup_cons.mp nodup
    rw [List.foldl_cons]
    cases bit : bits.toNat.testBit (7 - column) with
    | false =>
      refine (ih d nodup).congr fun c r => ?_
      simp [columnsCover, bit]
    | true =>
      refine ((d.drawn_flip (x + column) y).trans (ih _ nodup) fun c r here => ?_).congr
        fun c r => ?_
      · -- the columns that are still to come are other ones
        have met : x + column = c := (of_decide_eq_true here).1
        refine List.any_eq_false.mpr fun other hother => ?_
        have differs : other ≠ column := fun same => new (same ▸ hother)
        have elsewhere : ¬ (x + other = c ∧ y = r) := by omega
        simp [elsewhere]
      · simp [columnsCover, bit]

theorem drawn_flipRow (d : Drawing) (x y : Nat) (bits : UInt8) :
    Drawn d (d.flipRow x y bits) fun c r => decide (r.val = y) && rowCovers x bits c := by
  refine (d.drawn_columns x y bits List.nodup_range).congr fun c r => ?_
  rw [Bool.eq_iff_iff]
  simp only [columnsCover, rowCovers, List.any_eq_true, List.mem_range, Bool.and_eq_true,
    decide_eq_true_eq]
  constructor
  · rintro ⟨column, narrow, bit, here, row⟩
    have place : c - x = column := by omega
    exact ⟨row.symm, ⟨by omega, by omega⟩, by rwa [place]⟩
  · rintro ⟨row, ⟨left, right⟩, bit⟩
    exact ⟨c - x, by omega, bit, by omega, row.symm⟩

theorem drawn_flipRows (d : Drawing) (x y : Nat) (sprite : List UInt8) :
    Drawn d (d.flipRows x y sprite) fun c r => covers x y sprite c r := by
  induction sprite generalizing d y with
  | nil =>
    refine (Drawn.refl d).congr fun c r => ?_
    rw [covers_nil]
  | cons bits below ih =>
    refine ((d.drawn_flipRow x y bits).trans (ih _ (y + 1)) fun c r first => ?_).congr fun c r => ?_
    · -- the rows that are still to come lie below
      obtain ⟨row, -⟩ := Bool.and_eq_true_iff.mp first
      exact covers_of_row_lt (by have := of_decide_eq_true row; omega)
    · rw [covers_cons]
      split
      · next row => rw [covers_of_row_lt (by omega)]; simp [row]
      · next row => simp [row]

end Drawing

/-! ## Whole sprites -/

variable (f : FrameBuffer) (x y : Nat) (sprite : List UInt8)

theorem drawn_drawSprite :
    Drawing.Drawn ⟨f, false⟩ (f.drawSprite x y sprite) fun c r => covers x y sprite c r :=
  Drawing.drawn_flipRows ⟨f, false⟩ x y sprite

theorem lit_drawSprite (c : Fin 64) (r : Fin 32) :
    (f.drawSprite x y sprite).frame.lit c r = (f.lit c r ^^ covers x y sprite c r) :=
  (f.drawn_drawSprite x y sprite).lit c r

theorem collision_drawSprite : (f.drawSprite x y sprite).collision = true
    ↔ ∃ (c : Fin 64) (r : Fin 32), covers x y sprite c r = true ∧ f.lit c r = true := by
  rw [(f.drawn_drawSprite x y sprite).collision]
  simp

/-- There is a collision exactly if a lit pixel goes out. -/
theorem collision_iff_goes_out : (f.drawSprite x y sprite).collision = true
    ↔ ∃ c r, f.lit c r = true ∧ (f.drawSprite x y sprite).frame.lit c r = false := by
  rw [collision_drawSprite]
  refine exists_congr fun c => exists_congr fun r => ?_
  rw [lit_drawSprite]
  cases f.lit c r <;> cases covers x y sprite c r <;> decide

/-- **A sprite, pixel by pixel.** Wherever a sprite of whatever height is drawn, each pixel of the
screen is flipped if it lies in the eight columns and the rows of the sprite and the sprite has a
bit there, the leftmost bit being the most significant; all other pixels stay. A pixel is on or off,
as ever. There is a collision if a pixel of the screen that has a bit was lit before. -/
theorem drawSprite_pointwise :
    (∀ (c : Fin 64) (r : Fin 32), (f.drawSprite x y sprite).frame.pixel? c r
        = some (f.lit c r ^^ covers x y sprite c r))
      ∧ ((f.drawSprite x y sprite).frame.toBytes.length = 2048
        ∧ ∀ k : Fin 2048, (f.drawSprite x y sprite).frame.toBytes.toArray[k]? = some 0
          ∨ (f.drawSprite x y sprite).frame.toBytes.toArray[k]? = some 1)
      ∧ ((f.drawSprite x y sprite).collision = true
        ↔ ∃ (c : Fin 64) (r : Fin 32), covers x y sprite c r = true ∧ f.lit c r = true) := by
  refine ⟨fun c r => ?_, ⟨length_toBytes _, toBytes_getElem? _⟩,
    f.collision_drawSprite x y sprite⟩
  rw [pixel?_eq_lit, lit_drawSprite]

end Chip8.FrameBuffer
