import Chip8.Proofs.FrameBuffer.Sprite

/-!
# Sprites on top of each other

What a pixel is after any number of sprites is decided by how many of them cover it, and there only
by whether that number is odd (`lit_drawAll`). So the order in which sprites are drawn does not
matter, and a sprite that is drawn twice is gone.

Collisions do depend on the order, since they are about what is lit at the time. What can be said of
them is how the collisions of two draws that follow each other hang together: a second draw of the
same sprite collides where the first one lit something, and a sprite that is cut in two collides if
one of its parts does.
-/

set_option autoImplicit false

namespace Chip8.FrameBuffer

/-- A sprite, and the place of its top left corner. -/
structure Draw where
  x : Nat
  y : Nat
  sprite : List UInt8
  deriving DecidableEq

namespace Draw

/-- Whether the sprite flips the pixel in column `c` of row `r`. -/
def covers (d : Draw) (c r : Nat) : Bool := FrameBuffer.covers d.x d.y d.sprite c r

end Draw

def draw (f : FrameBuffer) (d : Draw) : FrameBuffer := (f.drawSprite d.x d.y d.sprite).frame

/-- The screen after one draw after the other. -/
def drawAll (f : FrameBuffer) (draws : List Draw) : FrameBuffer := draws.foldl draw f

/-- **A pixel is flipped once for every sprite that covers it.** -/
theorem lit_drawAll (f : FrameBuffer) (draws : List Draw) (c : Fin 64) (r : Fin 32) :
    (f.drawAll draws).lit c r
      = (f.lit c r ^^ decide (draws.countP (fun d => d.covers c r) % 2 = 1)) := by
  induction draws generalizing f with
  | nil => simp [drawAll]
  | cons d draws ih =>
    have first : (f.draw d).lit c r = (f.lit c r ^^ d.covers c r) :=
      f.lit_drawSprite d.x d.y d.sprite c r
    show ((f.draw d).drawAll draws).lit c r = _
    rw [ih, first, Bool.xor_assoc]
    congr 1
    -- the first sprite flips the pixel, and the count, or leaves both alone
    cases covered : d.covers c r with
    | false => simp [covered]
    | true =>
      have one_more : (d :: draws).countP (fun d => d.covers c r)
          = draws.countP (fun d => d.covers c r) + 1 := List.countP_cons_of_pos covered
      rw [one_more, Bool.true_xor, ← decide_not, decide_eq_decide]
      omega

theorem drawAll_perm (f : FrameBuffer) {draws draws' : List Draw} (h : draws.Perm draws') :
    f.drawAll draws = f.drawAll draws' := by
  apply ext_lit
  intro c r
  rw [lit_drawAll, lit_drawAll, h.countP_eq]

/-! ## Two draws in a row -/

section Twice

variable (f : FrameBuffer) (x y : Nat) (sprite : List UInt8)

theorem drawSprite_drawSprite :
    ((f.drawSprite x y sprite).frame.drawSprite x y sprite).frame = f := by
  apply ext_lit
  intro c r
  rw [lit_drawSprite, lit_drawSprite, Bool.xor_assoc, Bool.xor_self, Bool.xor_false]

/-- The second draw puts out what the first one lit, and nothing else that is lit. -/
theorem collision_drawSprite_again :
    ((f.drawSprite x y sprite).frame.drawSprite x y sprite).collision = true
      ↔ ∃ c r, f.lit c r = false ∧ (f.drawSprite x y sprite).frame.lit c r = true := by
  rw [collision_drawSprite]
  refine exists_congr fun c => exists_congr fun r => ?_
  rw [lit_drawSprite]
  cases f.lit c r <;> cases covers x y sprite c r <;> decide

end Twice

/-! ## A sprite in two parts -/

theorem flipRows_append (d : Drawing) (x y : Nat) (upper lower : List UInt8) :
    d.flipRows x y (upper ++ lower)
      = (d.flipRows x y upper).flipRows x (y + upper.length) lower := by
  induction upper generalizing d y with
  | nil => rfl
  | cons bits upper ih =>
    rw [List.cons_append, Drawing.flipRows, ih, List.length_cons, Nat.add_assoc, Nat.add_comm 1]
    rfl

/-- What was drawn before makes no difference to where a sprite goes, and is remembered if it
collided. -/
theorem flipRows_eq (d : Drawing) (x y : Nat) (sprite : List UInt8) :
    d.flipRows x y sprite
      = ⟨(d.frame.drawSprite x y sprite).frame,
          d.collision || (d.frame.drawSprite x y sprite).collision⟩ := by
  obtain ⟨lit, collision⟩ := d.drawn_flipRows x y sprite
  have frames : (d.flipRows x y sprite).frame = (d.frame.drawSprite x y sprite).frame :=
    ext_lit fun c r => by rw [lit, lit_drawSprite]
  have collisions : (d.flipRows x y sprite).collision
      = (d.collision || (d.frame.drawSprite x y sprite).collision) := by
    rw [Bool.eq_iff_iff, collision, Bool.or_eq_true, collision_drawSprite]
  rw [← frames, ← collisions]

theorem drawSprite_append (f : FrameBuffer) (x y : Nat) (upper lower : List UInt8) :
    f.drawSprite x y (upper ++ lower)
      = ⟨((f.drawSprite x y upper).frame.drawSprite x (y + upper.length) lower).frame,
          (f.drawSprite x y upper).collision
            || ((f.drawSprite x y upper).frame.drawSprite x (y + upper.length) lower).collision⟩ := by
  rw [drawSprite, flipRows_append, flipRows_eq]
  rfl

/-- **Drawing is an action of sprites in no order.** Whatever is on the screen, sprites leave the
same picture in whatever order they are drawn; a sprite that is drawn a second time at the same place
leaves the screen as it was before the first, and collides exactly if the first draw lit a pixel that
was off; and a sprite may be drawn in two parts, one below the other, with the same picture, and a
collision exactly if one of the parts collides. -/
theorem drawing_order_free (f : FrameBuffer) :
    (∀ draws draws' : List Draw, draws.Perm draws' → f.drawAll draws = f.drawAll draws')
      ∧ (∀ x y sprite,
          let first := f.drawSprite x y sprite
          let second := first.frame.drawSprite x y sprite
          second.frame = f
            ∧ (second.collision = true
              ↔ ∃ c r, f.lit c r = false ∧ first.frame.lit c r = true))
      ∧ ∀ x y upper lower,
          let whole := f.drawSprite x y (upper ++ lower)
          let first := f.drawSprite x y upper
          let second := first.frame.drawSprite x (y + upper.length) lower
          whole.frame = second.frame
            ∧ (whole.collision = true ↔ first.collision = true ∨ second.collision = true) := by
  refine ⟨fun draws draws' => f.drawAll_perm, fun x y sprite => ?_, fun x y upper lower => ?_⟩
  · exact ⟨f.drawSprite_drawSprite x y sprite, f.collision_drawSprite_again x y sprite⟩
  · rw [drawSprite_append]
    exact ⟨rfl, by rw [Bool.or_eq_true]⟩

theorem lit_blank (c : Fin 64) (r : Fin 32) : blank.lit c r = false :=
  Vector.getElem_replicate (index_lt c r)

/-- Three sprites on top of each other in the bottom right corner, two of them cut off there. -/
def cornered : List Draw := [⟨60, 30, [0xFF, 0xFF, 0xFF]⟩, ⟨62, 31, [0xA0]⟩, ⟨57, 30, [0x1C, 0x03]⟩]

theorem drawing_order_free_cornered :
    cornered.Perm cornered.reverse
      ∧ blank.drawAll cornered = blank.drawAll cornered.reverse
      ∧ ∀ c, (blank.drawAll cornered).lit c 31 = decide (c = 60 ∨ c = 61) := by
  have perm : cornered.Perm cornered.reverse := cornered.reverse_perm.symm
  refine ⟨perm, (drawing_order_free blank).1 _ _ perm, fun c => ?_⟩
  rw [lit_drawAll, lit_blank]
  revert c
  decide

end Chip8.FrameBuffer
