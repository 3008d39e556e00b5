import Mathlib.Data.List.Induction
import Mathlib.Data.List.Nodup
import Chip8.Screen.Resolution
import Chip8.Proofs.FrameBuffer.Sprite

/-!
# The picture of a frame

The canvas is given one list of points for the pixels of each value. This file says that the lists
are the frame: pixel `n` lies in column `n % width` of row `n / width`, no two pixels lie at the same
place, and the places of a frame are those within the ends of the axes. So the lists of an unlit and
a lit value share the places out between them, and the frame can be told from them
(`picture_faithful`).

Coordinates are whole numbers here, as wide as they need to be. The number of pixels is not: a frame
of `2 ^ 64` pixels or more is not painted at all.
-/

set_option autoImplicit false

namespace Chip8.Resolution

variable {r : Resolution} {frame : List UInt8} {value : UInt8}

/-! ## Which pixels, and where -/

/-- The numbers of the pixels that have a value, in order: those before the end of the frame and
before the end of the last row. -/
def pixelsWith (r : Resolution) (frame : List UInt8) (value : UInt8) : List Nat :=
  (List.range (min frame.length (r.width * r.height))).filter fun n => frame[n]? = some value

theorem mem_pixelsWith {n : Nat} :
    n ∈ r.pixelsWith frame value ↔ n < r.width * r.height ∧ frame[n]? = some value := by
  rw [pixelsWith, List.mem_filter, List.mem_range, decide_eq_true_eq]
  refine ⟨fun ⟨inside, here⟩ => ⟨by omega, here⟩, fun ⟨inside, here⟩ => ⟨?_, here⟩⟩
  obtain ⟨short, -⟩ := List.getElem?_eq_some_iff.mp here
  omega

theorem filter_zipIdx (frame : List UInt8) (value : UInt8) :
    (frame.zipIdx.filter fun (pixel, _) => pixel = value).map Prod.snd
      = (List.range frame.length).filter fun n => frame[n]? = some value := by
  induction frame using List.reverseRecOn with
  | nil => rfl
  | append_singleton frame pixel ih =>
    have earlier : (List.range frame.length).filter (fun n => (frame ++ [pixel])[n]? = some value)
        = (List.range frame.length).filter fun n => frame[n]? = some value :=
      List.filter_congr fun n inside => by
        rw [List.getElem?_append_left (List.mem_range.mp inside)]
    rw [List.zipIdx_append, List.filter_append, List.map_append, ih, List.length_append,
      List.length_singleton, List.range_succ, List.filter_append, earlier]
    by_cases same : pixel = value <;> simp [same]

theorem points_eq (r : Resolution) (frame : List UInt8) (value : UInt8) :
    r.points frame value = (r.pixelsWith frame value).map r.point := by
  have shown := filter_zipIdx (frame.take r.pixelCount) value
  have kept : (List.range (min r.pixelCount frame.length)).filter
        (fun n => (frame.take r.pixelCount)[n]? = some value)
      = (List.range (min r.pixelCount frame.length)).filter fun n => frame[n]? = some value :=
    List.filter_congr fun n inside => by
      have := List.mem_range.mp inside
      rw [List.getElem?_take_of_lt (by omega)]
  rw [List.length_take, kept, Nat.min_comm, pixelCount] at shown
  rw [pixelsWith, ← shown, List.map_map]
  rfl

theorem point_injective (r : Resolution) : Function.Injective r.point := by
  intro m n same
  obtain ⟨column, row⟩ := Prod.mk.inj same
  rw [← Nat.div_add_mod m r.width, ← Nat.div_add_mod n r.width,
    show m % r.width = n % r.width by omega, show m / r.width = n / r.width by omega]

/-- Row after row, every place has its number. -/
theorem point_of_place {x : Nat} (inside : x < r.width) (y : Nat) :
    r.point (r.width * y + x) = ((x : Int), -(y : Int)) := by
  have column : (r.width * y + x) % r.width = x := by
    rw [Nat.mul_add_mod, Nat.mod_eq_of_lt inside]
  have row : (r.width * y + x) / r.width = y := by
    rw [Nat.mul_add_div (Nat.zero_lt_of_lt inside), Nat.div_eq_of_lt inside, Nat.add_zero]
  rw [point, column, row]

theorem number_lt {x y : Nat} (column : x < r.width) (row : y < r.height) :
    r.width * y + x < r.width * r.height :=
  calc r.width * y + x < r.width * (y + 1) := by rw [Nat.mul_succ]; omega
    _ ≤ r.width * r.height := Nat.mul_le_mul_left _ row

theorem place_of_number {n : Nat} (inside : n < r.width * r.height) :
    n % r.width < r.width ∧ n / r.width < r.height :=
  ⟨Nat.mod_lt _ (Nat.pos_of_mul_pos_right (Nat.zero_lt_of_lt inside)),
    Nat.div_lt_of_lt_mul inside⟩

theorem nodup_points (r : Resolution) (frame : List UInt8) (value : UInt8) :
    (r.points frame value).Nodup := by
  rw [points_eq]
  exact (List.nodup_range.filter _).map r.point_injective

theorem point_mem_points {n : Nat} :
    r.point n ∈ r.points frame value ↔ n < r.width * r.height ∧ frame[n]? = some value := by
  rw [points_eq, List.mem_map_of_injective r.point_injective, mem_pixelsWith]

theorem place_within_bounds {x y : Nat} (column : x < r.width) (row : y < r.height) :
    (r.xBounds.1 ≤ (x : Int) ∧ (x : Int) ≤ r.xBounds.2)
      ∧ r.yBounds.1 ≤ -(y : Int) ∧ -(y : Int) ≤ r.yBounds.2 := by
  simp only [xBounds, yBounds]
  omega

theorem within_bounds {p : Int × Int} (here : p ∈ r.points frame value) :
    (r.xBounds.1 ≤ p.1 ∧ p.1 ≤ r.xBounds.2) ∧ r.yBounds.1 ≤ p.2 ∧ p.2 ≤ r.yBounds.2 := by
  rw [points_eq] at here
  obtain ⟨n, pixel, rfl⟩ := List.mem_map.mp here
  obtain ⟨column, row⟩ := place_of_number (mem_pixelsWith.mp pixel).1
  exact place_within_bounds column row

/-! ## What can be painted -/

theorem isPaintable_iff :
    r.isPaintable = true ↔ 0 < r.width ∧ 0 < r.height ∧ r.width * r.height < Nat.pow 2 64 := by
  rw [isPaintable, Bool.and_eq_true, Bool.and_eq_true, decide_eq_true_iff, decide_eq_true_iff,
    decide_eq_true_iff, and_assoc]
  rfl

theorem points?_eq_none_iff :
    r.points? frame value = none
      ↔ r.width = 0 ∨ r.height = 0 ∨ Nat.pow 2 64 ≤ r.width * r.height := by
  unfold points?
  split
  next paintable =>
    obtain ⟨columns, rows, countable⟩ := isPaintable_iff.mp paintable
    simp only [reduceCtorEq, false_iff]
    omega
  next unpaintable =>
    rw [isPaintable_iff] at unpaintable
    simp only [true_iff]
    omega

/-! ## Lit and unlit -/

/-- Every pixel is on one of two lists, if there are no values but two. -/
theorem mem_points_of_two {n : Nat} (long : r.width * r.height ≤ frame.length)
    (twofold : ∀ pixel ∈ frame, pixel = 0 ∨ pixel = 1) (inside : n < r.width * r.height) :
    r.point n ∈ r.points frame 0 ∨ r.point n ∈ r.points frame 1 := by
  have present : n < frame.length := by omega
  have here := List.getElem?_eq_getElem present
  rw [point_mem_points, point_mem_points]
  rcases twofold _ (List.getElem_mem present) with zero | one
  · exact .inl ⟨inside, here.trans (congrArg some zero)⟩
  · exact .inr ⟨inside, here.trans (congrArg some one)⟩

theorem disjoint_points (r : Resolution) (frame : List UInt8) {value value' : UInt8}
    (differ : value ≠ value') : (r.points frame value).Disjoint (r.points frame value') := by
  intro p first second
  rw [points_eq] at first
  obtain ⟨n, pixel, rfl⟩ := List.mem_map.mp first
  have one := (mem_pixelsWith.mp pixel).2
  have other := (point_mem_points.mp second).2
  exact differ (Option.some.inj (one.symm.trans other))

/-- The two lists share out the places of the frame. -/
theorem mem_points_append_iff (long : r.width * r.height ≤ frame.length)
    (twofold : ∀ pixel ∈ frame, pixel = 0 ∨ pixel = 1) {p : Int × Int} :
    p ∈ r.points frame 0 ++ r.points frame 1
      ↔ ∃ x < r.width, ∃ y < r.height, p = ((x : Int), -(y : Int)) := by
  rw [List.mem_append]
  constructor
  · intro here
    obtain ⟨n, inside, rfl⟩ : ∃ n < r.width * r.height, r.point n = p := by
      simp only [points_eq, List.mem_map, mem_pixelsWith] at here
      rcases here with ⟨n, ⟨inside, -⟩, place⟩ | ⟨n, ⟨inside, -⟩, place⟩ <;>
        exact ⟨n, inside, place⟩
    obtain ⟨column, row⟩ := place_of_number inside
    exact ⟨n % r.width, column, n / r.width, row, rfl⟩
  · rintro ⟨x, column, y, row, rfl⟩
    rw [← point_of_place column]
    exact mem_points_of_two long twofold (number_lt column row)

/-- A frame of two values can be told from its lists, among frames of any length and values. -/
theorem take_eq_of_points {other : List UInt8} (long : r.width * r.height ≤ frame.length)
    (twofold : ∀ pixel ∈ frame, pixel = 0 ∨ pixel = 1)
    (unlit : r.points other 0 = r.points frame 0) (lit : r.points other 1 = r.points frame 1) :
    other.take (r.width * r.height) = frame.take (r.width * r.height) := by
  have agree {n : Nat} {value : UInt8} (same : r.points other value = r.points frame value)
      (here : r.point n ∈ r.points frame value) : other[n]? = frame[n]? := by
    have there := here
    rw [← same] at there
    exact (point_mem_points.mp there).2.trans (point_mem_points.mp here).2.symm
  apply List.ext_getElem?
  intro n
  by_cases inside : n < r.width * r.height
  · rw [List.getElem?_take_of_lt inside, List.getElem?_take_of_lt inside]
    exact (mem_points_of_two long twofold inside).elim (agree unlit) (agree lit)
  · rw [List.getElem?_take_eq_none (by omega), List.getElem?_take_eq_none (by omega)]

/-- On the machine's own screen, the lit list has the pixels that are lit. -/
theorem mem_points_lit (f : FrameBuffer) (column : Fin 64) (row : Fin 32) :
    ((column.val : Int), -(row.val : Int))
        ∈ (Resolution.mk FrameBuffer.width FrameBuffer.height).points f.toBytes 1
      ↔ f.lit column row = true := by
  have number : FrameBuffer.width * row.val + column.val = FrameBuffer.index column row := by
    rw [FrameBuffer.index, Nat.mul_comm]
  have inside := FrameBuffer.index_lt column row
  have pixel : f.toBytes[FrameBuffer.index column row]?
      = some (if f.lit column row then 1 else 0) := by
    simp [FrameBuffer.toBytes, FrameBuffer.lit, inside, Vector.get]
  rw [← point_of_place (r := ⟨FrameBuffer.width, FrameBuffer.height⟩) column.isLt, point_mem_points]
  simp only [number, pixel]
  cases f.lit column row <;> simp [FrameBuffer.width, FrameBuffer.height, inside]

/-- **The lists of points are the frame.** Let a frame have columns and rows, and fewer than
`2 ^ 64` pixels. Of any bytes, be they too few or too many for it, and for any value, the list of
points has the places of the pixels with that value, in order, and each once: pixel `n` lies in
column `n % width`, and in row `n / width` counted downwards, and that is within the ends of the
axes. If the bytes suffice for the frame and are all 0 or 1, then the lists for 0 and 1 have no place
in common; together they have every place of the frame, once, and no other; and no other bytes have
the same two lists, unless they agree on all pixels of the frame. -/
theorem picture_faithful (r : Resolution) (columns : 1 ≤ r.width) (rows : 1 ≤ r.height)
    (countable : r.width * r.height < Nat.pow 2 64) (frame : List UInt8) :
    (∀ value, ∃ points, r.points? frame value = some points
        ∧ points = (r.pixelsWith frame value).map
            (fun n => (((n % r.width : Nat) : Int), -((n / r.width : Nat) : Int)))
        ∧ points.Nodup
        ∧ ∀ p ∈ points,
            (r.xBounds.1 ≤ p.1 ∧ p.1 ≤ r.xBounds.2) ∧ r.yBounds.1 ≤ p.2 ∧ p.2 ≤ r.yBounds.2)
      ∧ (r.width * r.height ≤ frame.length → (∀ pixel ∈ frame, pixel = 0 ∨ pixel = 1) →
          ∃ unlit lit, r.points? frame 0 = some unlit ∧ r.points? frame 1 = some lit
            ∧ unlit.Disjoint lit
            ∧ (unlit ++ lit).Nodup
            ∧ (∀ p, p ∈ unlit ++ lit
                ↔ ∃ x < r.width, ∃ y < r.height, p = ((x : Int), -(y : Int)))
            ∧ ∀ other, r.points? other 0 = some unlit → r.points? other 1 = some lit →
                other.take (r.width * r.height) = frame.take (r.width * r.height)) := by
  have paintable : r.isPaintable = true := isPaintable_iff.mpr ⟨columns, rows, countable⟩
  have painted (bytes : List UInt8) (value : UInt8) :
      r.points? bytes value = some (r.points bytes value) := if_pos paintable
  refine ⟨fun value => ⟨_, painted frame value, points_eq r frame value, nodup_points r frame value,
      fun p => within_bounds⟩,
    fun long twofold => ⟨_, _, painted frame 0, painted frame 1, ?_⟩⟩
  have apart : (r.points frame 0).Disjoint (r.points frame 1) := disjoint_points r frame (by decide)
  refine ⟨apart, ?_, fun p => mem_points_append_iff long twofold, fun other unlit lit => ?_⟩
  · exact (nodup_points r frame 0).append (nodup_points r frame 1) apart
  · rw [painted] at unlit lit
    exact take_eq_of_points long twofold (Option.some.inj unlit) (Option.some.inj lit)

/-- Three columns, two rows, and a byte too many. -/
theorem picture_faithful_threeByTwo :
    let r : Resolution := ⟨3, 2⟩
    let frame : List UInt8 := [1, 0, 0, 1, 0, 1, 1]
    (1 ≤ r.width ∧ 1 ≤ r.height ∧ r.width * r.height < Nat.pow 2 64)
      ∧ (r.width * r.height ≤ frame.length ∧ ∀ pixel ∈ frame, pixel = 0 ∨ pixel = 1)
      ∧ r.points? frame 1 = some [(0, 0), (0, -1), (2, -1)]
      ∧ ∃ unlit lit, r.points? frame 0 = some unlit ∧ r.points? frame 1 = some lit
          ∧ unlit.Disjoint lit
          ∧ ∀ other, r.points? other 0 = some unlit → r.points? other 1 = some lit →
              other.take 6 = [1, 0, 0, 1, 0, 1] := by
  intro r frame
  have sized : 1 ≤ r.width ∧ 1 ≤ r.height ∧ r.width * r.height < Nat.pow 2 64 := by decide
  have long : r.width * r.height ≤ frame.length := by decide
  have twofold : ∀ pixel ∈ frame, pixel = 0 ∨ pixel = 1 := by simp [frame]
  obtain ⟨lists, shared⟩ := picture_faithful r sized.1 sized.2.1 sized.2.2 frame
  obtain ⟨points, painted, places, -⟩ := lists 1
  obtain ⟨unlit, lit, painted₀, painted₁, apart, -, -, told⟩ := shared long twofold
  exact ⟨sized, ⟨long, twofold⟩, painted.trans (congrArg some (places.trans (by decide))),
    unlit, lit, painted₀, painted₁, apart, told⟩

/-- With `2 ^ 32` columns and as many rows, not even the first pixel is painted. -/
theorem too_many_pixels_to_paint :
    let r : Resolution := ⟨Nat.pow 2 32, Nat.pow 2 32⟩
    let frame : List UInt8 := [1, 0]
    1 ≤ r.width ∧ 1 ≤ r.height
      ∧ 0 < min frame.length (r.width * r.height) ∧ frame[0]? = some 1
      ∧ r.points? frame 1 = none := by
  decide

end Chip8.Resolution
