import Chip8.Proofs.Interpreter.ArrayState

/-!
# No instruction strays

The comparison that `ArrayState` is there for: `step_toArrays` says that from the arrays of a state
a step strays nowhere, and ends in the arrays of what `State.step` gives, with the same result.
Since the arrays of a state are the only thing that the statement mentions, nothing about the
program, the operands or the index register is assumed.

The lemmas follow the definitions from the inside out, one for each access and each loop. They are
simp lemmas, so an instruction is settled by unfolding its two bodies.
-/

set_option autoImplicit false

namespace Chip8

namespace Stray

@[simp] theorem ok_bind {α β : Type} (a : α) (f : α → Except Stray β) :
    (Except.ok a >>= f) = f a := rfl

theorem foldlM_singleton {α β : Type} (f : α → β → Except Stray α) (a : α) (b : β) :
    [b].foldlM f a = f a b := by
  rw [List.foldlM_cons]
  exact bind_pure _

theorem look_toArray {α : Type} {n : Nat} (stray : Nat → Stray) (v : Vector α n) {i : Nat}
    (h : i < n) : look stray v.toArray i = .ok v[i] := by
  simp [look, h]

theorem put_toArray {α : Type} {n : Nat} (stray : Nat → Stray) (v : Vector α n) {i : Nat}
    (value : α) (h : i < n) : put stray v.toArray i value = .ok (v.set i value h).toArray := by
  simp [put, h]

end Stray

namespace State

open Stray

variable (s : State)

theorem toArrays_index : s.toArrays.index = s.index := rfl

/-! ## Single accesses -/

@[simp] theorem readByte_toArrays (addr : UInt16) :
    s.toArrays.readByte addr = .ok (s.memory.get addr) :=
  look_toArray _ s.memory.bytes (Nat.mod_lt _ (by decide))

@[simp] theorem writeByte_toArrays (addr : UInt16) (value : UInt8) :
    s.toArrays.writeByte addr value =
      .ok { s with memory := s.memory.set addr value }.toArrays := by
  show (put .memory s.memory.bytes.toArray (addr.toNat % 4096) value >>= fun _ => _) = _
  rw [put_toArray _ s.memory.bytes value (Nat.mod_lt _ (by decide))]
  rfl

@[simp] theorem readWord_toArrays (addr : UInt16) :
    s.toArrays.readWord addr = .ok (s.memory.word addr) := by
  simp only [ArrayState.readWord, readByte_toArrays]
  rfl

@[simp] theorem readRegister_toArrays (x : Register) :
    s.toArrays.readRegister x.val = .ok (s.registers.get x) :=
  look_toArray _ s.registers.values x.isLt

@[simp] theorem writeRegister_toArrays (x : Register) (value : UInt8) :
    s.toArrays.writeRegister x.val value = .ok (s.setRegister x value).toArrays := by
  show (put .register s.registers.values.toArray x.val value >>= fun _ =>
    put .register s.registers.changed.toArray x.val true >>= fun _ => _) = _
  rw [put_toArray _ _ _ x.isLt, put_toArray _ _ _ x.isLt]
  rfl

@[simp] theorem writeWithFlag_toArrays (x : Register) (result : UInt8) (flag : Bool) :
    s.toArrays.writeWithFlag x.val result flag = .ok (s.setWithFlag x result flag).toArrays := by
  unfold ArrayState.writeWithFlag
  rw [writeRegister_toArrays]
  exact writeRegister_toArrays _ Registers.VF _

/-! ## Drawing -/

end State

namespace FrameBuffer

open Stray

/-- The pixels of the arrays are a vector of bytes, like the rest of the storage. -/
theorem toBytes_toArray (f : FrameBuffer) :
    f.toBytes.toArray = (f.pixels.map fun lit => if lit then (1 : UInt8) else 0).toArray := by
  simp only [FrameBuffer.toBytes, Vector.toList, Vector.toArray_map, ← List.map_toArray,
    Array.toArray_toList]

/-- Each of the pixels is there, and is 0 or 1. -/
theorem toBytes_getElem? (f : FrameBuffer) (k : Fin 2048) :
    f.toBytes.toArray[k]? = some 0 ∨ f.toBytes.toArray[k]? = some 1 := by
  have hk : f.toBytes.toArray[k]? = some (if f.pixels[k] then 1 else 0) := by
    rw [toBytes_toArray]
    simp
  cases hp : f.pixels[k] with
  | false => exact Or.inl (by rw [hk, hp]; rfl)
  | true => exact Or.inr (by rw [hk, hp]; rfl)

/-- Exclusive or with 1 is what flipping a pixel comes to in bytes. -/
theorem xor_one_pixel (lit : Bool) :
    ((if lit then 1 else 0) ^^^ 1 : UInt8) = if !lit then 1 else 0 := by
  cases lit <;> rfl

theorem pixel_eq_one (lit : Bool) : ((if lit then 1 else 0 : UInt8) == 1) = lit := by
  cases lit <;> rfl

namespace Drawing

/-- A drawing in bytes, as `ArrayState.flip` keeps it. -/
def toBytes (d : Drawing) : Array UInt8 × Bool := (d.frame.toBytes.toArray, d.collision)

theorem flip_toBytes (d : Drawing) (x y : Nat) :
    ArrayState.flip d.toBytes x y = .ok (d.flip x y).toBytes := by
  unfold ArrayState.flip flip
  by_cases h : x < 64 ∧ y < 32
  · rw [if_pos h, dif_pos h]
    have inside : y * 64 + x < 2048 := by omega
    simp only [toBytes, toBytes_toArray, look_toArray _ _ inside, put_toArray _ _ _ inside]
    show Except.ok _ = Except.ok _
    simp only [Vector.getElem_map, xor_one_pixel, pixel_eq_one, ← Vector.map_set]
    rfl
  · rw [if_neg h, dif_neg h]
    rfl

theorem flipRow_toBytes (d : Drawing) (x y : Nat) (bits : UInt8) :
    ArrayState.flipRow d.toBytes x y bits = .ok (d.flipRow x y bits).toBytes := by
  unfold ArrayState.flipRow flipRow
  generalize List.range 8 = columns
  induction columns generalizing d with
  | nil => rfl
  | cons column rest ih =>
    rw [List.foldlM_cons, List.foldl_cons]
    split
    · rw [flip_toBytes]
      exact ih _
    · exact ih _

theorem flipRows_toBytes (d : Drawing) (x y : Nat) (sprite : List UInt8) :
    ArrayState.flipRows d.toBytes x y sprite = .ok (d.flipRows x y sprite).toBytes := by
  induction sprite generalizing d y with
  | nil => rfl
  | cons bits below ih =>
    unfold ArrayState.flipRows
    rw [flipRow_toBytes]
    exact ih _ _

end Drawing

end FrameBuffer

namespace CallStack

/-- What a return takes off, and what it leaves. -/
theorem pop?_of_depth {c : CallStack} {d : Nat} (h : c.depth = d + 1) (hlt : d < 16) :
    c.pop? = some (c.slots[d], ⟨c.slots, d, Nat.le_of_lt hlt⟩) := by
  obtain ⟨slots, depth, hle⟩ := c
  cases h
  rfl

end CallStack

/-! ## Loops of accesses

Where the arrays are walked element by element, the state has one operation on a block. The two
lemmas after this heading say how such an operation grows by one element. -/

namespace Memory

theorem setAll_append (m : Memory) (addr : UInt16) (data : List UInt8) (b : UInt8) :
    m.setAll addr (data ++ [b]) = (m.setAll addr data).set (addr + UInt16.ofNat data.length) b := by
  induction data generalizing m addr with
  | nil => simp [setAll]
  | cons d data ih =>
    have hshift : addr + 1 + UInt16.ofNat data.length = addr + UInt16.ofNat (data.length + 1) := by
      rw [UInt16.ofNat_add, UInt16.add_assoc, UInt16.add_comm 1]
      rfl
    rw [List.cons_append, setAll, setAll, ih, hshift, List.length_cons]

end Memory

namespace Registers

variable (r : Registers) (value : Register → UInt8)

theorem writeThrough_zero : r.writeThrough 0 value = r.write 0 (value 0) := by
  simp only [writeThrough, write, mk.injEq, and_true]
  constructor
  all_goals
    apply Vector.ext
    intro k hk
    simp only [Vector.getElem_ofFn, Vector.getElem_set]
    cases k with
    | zero => rfl
    | succ k => rfl

theorem writeThrough_succ {n : Nat} (h : n + 1 < 16) :
    r.writeThrough ⟨n + 1, h⟩ value =
      (r.writeThrough ⟨n, Nat.lt_of_succ_lt h⟩ value).write ⟨n + 1, h⟩ (value ⟨n + 1, h⟩) := by
  simp only [writeThrough, write, mk.injEq, and_true]
  constructor
  all_goals
    apply Vector.ext
    intro k hk
    simp only [Vector.getElem_ofFn, Vector.getElem_set, Fin.mk_le_mk]
    by_cases hkn : n + 1 = k
    · subst hkn
      rw [if_pos (Nat.le_refl _), if_pos rfl]
    · have hle : k ≤ n + 1 ↔ k ≤ n := by omega
      simp only [hle, if_neg hkn]

end Registers

namespace State

open Stray

variable (s : State)

@[simp] theorem readBytes_toArrays (addr : UInt16) (count : Nat) :
    s.toArrays.readBytes addr count = .ok (s.memory.getAll addr count) := by
  unfold ArrayState.readBytes Memory.getAll
  generalize List.range count = offsets
  induction offsets with
  | nil => rfl
  | cons k rest ih =>
    rw [List.mapM_cons, ih, readByte_toArrays]
    rfl

theorem storeRegister_toArrays (k : Register) :
    s.toArrays.storeRegister k.val =
      .ok { s with memory :=
        s.memory.set (s.index + UInt16.ofNat k.val) (s.registers.get k) }.toArrays := by
  unfold ArrayState.storeRegister
  rw [readRegister_toArrays, ok_bind]
  exact writeByte_toArrays _ _ _

@[simp] theorem storeRegisters_toArrays {count : Nat} (h : count ≤ 16) :
    s.toArrays.storeRegisters count =
      .ok { s with memory :=
        s.memory.setAll s.index (s.registers.values.toList.take count) }.toArrays := by
  induction count with
  | zero => rfl
  | succ n ih =>
    have hlen : (s.registers.values.toList.take n).length = n := by simp; omega
    have htake : s.registers.values.toList.take (n + 1) =
        s.registers.values.toList.take n ++ [s.registers.get ⟨n, h⟩] := by
      simp [List.take_add_one, Registers.get_eq_getElem]
    unfold ArrayState.storeRegisters at ih ⊢
    rw [List.range_succ, List.foldlM_append, ih (Nat.le_of_succ_le h), ok_bind, htake,
      Memory.setAll_append, hlen, foldlM_singleton]
    exact storeRegister_toArrays _ ⟨n, h⟩

/-- What `FX65` loads into a register. -/
def loaded (k : Register) : UInt8 := s.memory.get (s.index + UInt16.ofNat k.val)

theorem loadRegister_toArrays (k : Register) :
    s.toArrays.loadRegister k.val = .ok (s.setRegister k (s.loaded k)).toArrays := by
  unfold ArrayState.loadRegister
  rw [toArrays_index, readByte_toArrays, ok_bind]
  exact writeRegister_toArrays _ _ _

@[simp] theorem loadRegisters_toArrays (x : Register) :
    s.toArrays.loadRegisters (x.val + 1) =
      .ok { s with registers := s.registers.writeThrough x s.loaded }.toArrays := by
  obtain ⟨n, h⟩ := x
  induction n with
  | zero =>
    rw [show (⟨0, h⟩ : Register) = 0 from rfl, Registers.writeThrough_zero]
    show [0].foldlM ArrayState.loadRegister s.toArrays = _
    rw [foldlM_singleton]
    exact loadRegister_toArrays s 0
  | succ n ih =>
    unfold ArrayState.loadRegisters at ih ⊢
    rw [List.range_succ, List.foldlM_append, ih (Nat.lt_of_succ_lt h), ok_bind, foldlM_singleton,
      Registers.writeThrough_succ]
    exact loadRegister_toArrays _ ⟨n + 1, h⟩

/-! ## Instructions -/

theorem skipIf_toArrays (condition : Bool) :
    s.toArrays.skipIf condition = (s.skipIf condition).toArrays := by
  cases condition <;> rfl

theorem advanceIndex_toArrays (advances : Bool) (x : Register) :
    s.toArrays.advanceIndex advances x.val = (s.advanceIndex advances x).toArrays := by
  cases advances <;> rfl

theorem clear_toArrays :
    { s with frame := FrameBuffer.blank, redraw := true }.toArrays =
      { s.toArrays with pixels := s.toArrays.pixels.map fun _ => 0, redraw := true } := by
  have hblank : FrameBuffer.blank.toBytes.toArray = s.toArrays.pixels.map fun _ => 0 := by
    show _ = s.frame.toBytes.toArray.map fun _ => 0
    rw [FrameBuffer.toBytes_toArray, FrameBuffer.toBytes_toArray, FrameBuffer.blank,
      Vector.map_replicate, ← Vector.toArray_map, Vector.map_map]
    exact congrArg Vector.toArray Vector.map_const'.symm
  rw [← hblank]
  rfl

/-- A return reads the slot below the depth, which exists as soon as a call is pending. -/
theorem ret_toArrays (advances : Bool) (random : UInt8) (pc : UInt16) :
    ArrayState.execute advances random pc s.toArrays .ret =
      .ok ((s.execute advances random pc .ret).map toArrays) := by
  simp only [ArrayState.execute, execute]
  rw [show s.toArrays.depth = s.stack.depth from rfl]
  cases hd : s.stack.depth with
  | zero =>
    rw [if_pos rfl, s.stack.pop?_eq_none_iff.mpr hd]
    rfl
  | succ d =>
    have hlt : d < 16 := by
      have := s.stack.depth_le
      omega
    rw [if_neg (Nat.succ_ne_zero d), CallStack.pop?_of_depth hd hlt]
    show (look .slot s.stack.slots.toArray d >>= fun _ => _) = _
    rw [look_toArray _ _ hlt]
    rfl

/-- A call writes the slot at the depth, unless the depth is 16 and the call fails. -/
theorem call_toArrays (advances : Bool) (random : UInt8) (pc : UInt16) (target : Address) :
    ArrayState.execute advances random pc s.toArrays (.call target) =
      .ok ((s.execute advances random pc (.call target)).map toArrays) := by
  simp only [ArrayState.execute, execute]
  rw [show s.toArrays.depth = s.stack.depth from rfl]
  by_cases hd : s.stack.depth < 16
  · have hpush : s.stack.push? s.pc =
        some ⟨s.stack.slots.set s.stack.depth s.pc, s.stack.depth + 1, hd⟩ := by
      rw [CallStack.push?, dif_pos hd]
    rw [if_neg (Nat.not_le.mpr hd), hpush]
    show (put .slot s.stack.slots.toArray s.stack.depth s.pc >>= fun _ => _) = _
    rw [put_toArray _ _ _ hd]
    rfl
  · have hfull : s.stack.depth = 16 := by
      have := s.stack.depth_le
      omega
    rw [if_pos (Nat.not_lt.mp hd), (s.stack.push?_eq_none_iff s.pc).mpr hfull]
    rfl

theorem draw_toArrays (advances : Bool) (random : UInt8) (pc : UInt16) (x y : Register)
    (n : Fin 16) :
    ArrayState.execute advances random pc s.toArrays (.draw x y n) =
      .ok ((s.execute advances random pc (.draw x y n)).map toArrays) := by
  have hdrawn := FrameBuffer.Drawing.flipRows_toBytes ⟨s.frame, false⟩
    (s.registers.get x).toNat (s.registers.get y).toNat (s.memory.getAll s.index n.val)
  simp only [ArrayState.execute, readRegister_toArrays, ok_bind]
  rw [toArrays_index, readBytes_toArrays, ok_bind,
    show (s.toArrays.pixels, false) = FrameBuffer.Drawing.toBytes ⟨s.frame, false⟩ from rfl,
    hdrawn, ok_bind]
  exact congrArg (· >>= fun a => pure (Except.ok a))
    (writeRegister_toArrays { s with frame := _, redraw := true } Registers.VF _)

theorem storeDecimal_toArrays (advances : Bool) (random : UInt8) (pc : UInt16) (x : Register) :
    ArrayState.execute advances random pc s.toArrays (.storeDecimal x) =
      .ok ((s.execute advances random pc (.storeDecimal x)).map toArrays) := by
  have hthird : s.index + 2 = s.index + 1 + 1 := by rw [UInt16.add_assoc]; rfl
  simp only [ArrayState.execute, readRegister_toArrays, writeByte_toArrays, toArrays_index,
    ok_bind, hthird]
  rfl

/-- **No instruction strays**, and on the arrays of a state each does what it does on the state. -/
theorem execute_toArrays (advances : Bool) (random : UInt8) (pc : UInt16) (ins : Instruction) :
    ArrayState.execute advances random pc s.toArrays ins =
      .ok ((s.execute advances random pc ins).map toArrays) := by
  cases ins with
  | machineCall | unknown | jump | setIndex => rfl
  | clearScreen =>
    simp only [ArrayState.execute, ← clear_toArrays]
    rfl
  | ret => exact ret_toArrays s advances random pc
  | call target => exact call_toArrays s advances random pc target
  -- an operand is a digit, so each register that is read or written exists
  | skipEqualConstant | skipNotEqualConstant | skipEqualRegister | skipNotEqualRegister
  | skipIfPressed | skipIfNotPressed =>
    simp only [ArrayState.execute, readRegister_toArrays, ok_bind, skipIf_toArrays]
    rfl
  | setRegister | addToRegister | copyRegister | bitOr | bitAnd | bitXor | random
  | copyDelayToRegister | copyRegisterToDelay | copyRegisterToSound | addToIndex | pointAtGlyph =>
    simp only [ArrayState.execute, readRegister_toArrays, writeRegister_toArrays, ok_bind]
    rfl
  | add | subtractForward | subtractBackward | rightShift | leftShift =>
    simp only [ArrayState.execute, readRegister_toArrays, writeWithFlag_toArrays, ok_bind]
    rfl
  -- this register is named by the instruction set, and not by an operand
  | jumpWithOffset target =>
    have h0 : s.toArrays.readRegister 0 = .ok (s.registers.get 0) := readRegister_toArrays s 0
    simp only [ArrayState.execute, h0, ok_bind]
    rfl
  | draw x y n => exact draw_toArrays s advances random pc x y n
  | waitForKey x =>
    simp only [ArrayState.execute, execute]
    rw [show s.toArrays.keypad = s.keypad from rfl]
    cases s.keypad.firstDown with
    | none => rfl
    | some key =>
      show (s.toArrays.writeRegister x.val _ >>= fun _ => _) = _
      rw [writeRegister_toArrays]
      rfl
  | storeDecimal x => exact storeDecimal_toArrays s advances random pc x
  | storeRegisters x =>
    simp only [ArrayState.execute, storeRegisters_toArrays s x.isLt, ok_bind,
      advanceIndex_toArrays]
    rfl
  | loadRegisters x =>
    simp only [ArrayState.execute, loadRegisters_toArrays, ok_bind, advanceIndex_toArrays]
    rfl

/-- **A step strays nowhere.** On the arrays of a state it ends in the arrays of what
`State.step` gives, and comes to the same result. -/
theorem step_toArrays (advances : Bool) (random : UInt8) :
    s.toArrays.step advances random =
      .ok ((s.step advances random).1.toArrays, (s.step advances random).2) := by
  unfold ArrayState.step step
  rw [show s.toArrays.pc = s.pc from rfl, readWord_toArrays, ok_bind]
  have hex := execute_toArrays { s.noted with pc := after s.pc } advances random s.pc
    (Instruction.decode s.fetch)
  show (ArrayState.execute advances random s.pc (toArrays { s.noted with pc := after s.pc })
    (Instruction.decode s.fetch) >>= fun _ => _) = _
  rw [hex, ok_bind]
  cases State.execute advances random s.pc { s.noted with pc := after s.pc }
      (Instruction.decode s.fetch) with
  | error fault => rfl
  | ok done => rfl

end State

end Chip8
