import Chip8.Proofs.Interpreter.Attempt

/-!
# In place, a step is the step

On the arrays of a state, an attempt at a step ends with the result of `State.step` and leaves the
arrays of the state that `State.step` gives (`on_step`, `stepInPlace_eq`). So what is proved of
failing steps is true of storage that nothing is taken back from, except the program counter.

The one fact behind it is that an instruction that fails has written nothing (`on_execute`). Two
instructions can fail, and both look at the depth of the call stack before they write (`on_push`,
`on_pop`). All others are put together from accesses that do not fail on the arrays of a state.
-/

set_option autoImplicit false

namespace Chip8

namespace Attempt

variable (s : State)

/-! ## Single accesses -/

@[simp] theorem on_readRegister (x : Register) :
    on (readRegister x.val) s.toArrays = some (.ok (s.registers.get x), s.toArrays) := by
  rw [readRegister, on_look, State.readRegister_toArrays]
  rfl

@[simp] theorem on_writeByte (addr : UInt16) (value : UInt8) :
    on (writeByte addr value) s.toArrays
      = some (.ok (), { s with memory := s.memory.set addr value }.toArrays) := by
  rw [writeByte, on_change, State.writeByte_toArrays]
  rfl

/-- Three writes make one of a register. -/
theorem on_writeRegister_eq (x : Nat) (value : UInt8) (a : ArrayState) :
    on (writeRegister x value) a
      = (a.writeRegister x value).toOption.map fun a' => (.ok (), a') := by
  unfold writeRegister ArrayState.writeRegister
  rw [on_bind, on_change]
  cases Stray.put .register a.values x value with
  | error stray => rfl
  | ok values =>
    show on (change _ >>= fun _ => _) { a with values := values } = _
    rw [on_bind, on_change]
    cases Stray.put .register a.changed x true <;> rfl

theorem on_writeRegister (x : Register) (value : UInt8) :
    on (writeRegister x.val value) s.toArrays
      = some (.ok (), (s.setRegister x value).toArrays) := by
  rw [on_writeRegister_eq, State.writeRegister_toArrays]
  rfl

@[simp] theorem on_writeFlag (flag : Bool) :
    on (writeFlag flag) s.toArrays
      = some (.ok (), (s.setRegister Registers.VF (if flag then 1 else 0)).toArrays) :=
  on_writeRegister s Registers.VF _

theorem on_jumpTo (addr : UInt16) (a : ArrayState) :
    on (jumpTo addr) a = some (.ok (), { a with pc := addr }) := rfl

@[simp] theorem on_skipIf (condition : Bool) :
    on (skipIf condition) s.toArrays = some (.ok (), (s.skipIf condition).toArrays) := by
  cases condition <;> rfl

theorem on_advanceIndex (advances : Bool) (x : Register) :
    on (advanceIndex advances x.val) s.toArrays
      = some (.ok (), (s.advanceIndex advances x).toArrays) := by
  cases advances <;> rfl

/-- A loop of writes in place makes what the loop of new arrays makes. -/
theorem on_forM {f : Nat → Attempt Unit} {g : ArrayState → Nat → Except Stray ArrayState}
    (same : ∀ k a, on (f k) a = (g a k).toOption.map fun a' => (.ok (), a')) (ks : List Nat)
    (a : ArrayState) :
    on (ks.forM f) a = (ks.foldlM g a).toOption.map fun a' => (.ok (), a') := by
  induction ks generalizing a with
  | nil => rfl
  | cons k ks ih =>
    show on (f k >>= fun _ => ks.forM f) a = _
    rw [List.foldlM_cons, on_bind, same]
    cases g a k with
    | error stray => rfl
    | ok a' => exact ih a'

theorem on_storeRegister (k : Nat) (a : ArrayState) :
    on (storeRegister k) a = (a.storeRegister k).toOption.map fun a' => (.ok (), a') := by
  unfold storeRegister ArrayState.storeRegister
  rw [readRegister, on_bind, on_look]
  cases a.readRegister k with
  | error stray => rfl
  | ok value => exact on_change _ a

theorem on_loadRegister (k : Nat) (a : ArrayState) :
    on (loadRegister k) a = (a.loadRegister k).toOption.map fun a' => (.ok (), a') := by
  unfold loadRegister ArrayState.loadRegister
  rw [on_bind_of_ok (on_get a), readByte, on_bind, on_look]
  cases a.readByte (a.index + UInt16.ofNat k) with
  | error stray => rfl
  | ok value => exact on_writeRegister_eq k value a

theorem on_drawSprite (x y : UInt8) (sprite : List UInt8) :
    on (drawSprite x.toNat y.toNat sprite) s.toArrays
      = some (.ok (s.frame.drawSprite x.toNat y.toNat sprite).collision,
        { s with frame := (s.frame.drawSprite x.toNat y.toNat sprite).frame }.toArrays) := by
  have small (value : UInt8) : value.toNat + 7 < Nat.pow 2 64 :=
    Nat.lt_trans (Nat.add_lt_add_right value.toNat_lt 7) (by decide)
  have drawn := s.frame.draw?_toBytes (y := y.toNat) sprite (small x)
    (Nat.lt_of_le_of_lt (Nat.le_add_right _ 7) (small y))
  show on (liftM (Blit.draw? s.frame.toBytes.toArray x.toNat y.toNat sprite) >>= _) _ = _
  rw [drawn]
  rfl

theorem on_writeSlot {n : Nat} (addr : UInt16) (inside : n < 16) :
    on (writeSlot n addr) s.toArrays
      = some (.ok (), { s.toArrays with slots := (s.stack.slots.set n addr).toArray }) := by
  refine on_change_of_ok ?_
  show (Stray.put .slot s.stack.slots.toArray n addr >>= fun _ => _) = _
  rw [Stray.put_toArray .slot _ addr inside]
  rfl

/-- A call is refused before anything is written. -/
theorem on_push (addr pc : UInt16) :
    on (push addr pc) s.toArrays = match s.stack.push? addr with
      | none => some (.error (.overflow pc), s.toArrays)
      | some stack => some (.ok (), { s with stack := stack }.toArrays) := by
  unfold push
  rw [on_bind_of_ok (on_get _), show s.toArrays.depth = s.stack.depth from rfl]
  by_cases room : s.stack.depth < 16
  · have entered : s.stack.push? addr
        = some ⟨s.stack.slots.set s.stack.depth addr, s.stack.depth + 1, room⟩ := dif_pos room
    rw [if_neg (Nat.not_le.mpr room), entered, on_bind_of_ok (on_get _)]
    exact on_bind_of_ok (on_writeSlot s addr room) _
  · have refused : s.stack.push? addr = none := dif_neg room
    rw [if_pos (Nat.not_lt.mp room), refused]
    rfl

/-- A return is refused before anything is written. -/
theorem on_pop (pc : UInt16) :
    on (pop pc) s.toArrays = match s.stack.pop? with
      | none => some (.error (.underflow pc), s.toArrays)
      | some (addr, stack) => some (.ok addr, { s with stack := stack }.toArrays) := by
  unfold pop
  rw [on_bind_of_ok (on_get _), show s.toArrays.depth = s.stack.depth from rfl]
  cases hd : s.stack.depth with
  | zero =>
    rw [s.stack.pop?_eq_none_iff.mpr hd]
    rfl
  | succ d =>
    have inside : d < 16 := by
      have := s.stack.depth_le
      omega
    have left : { s.toArrays with depth := s.stack.depth - 1 }
        = { s with stack := ⟨s.stack.slots, d, Nat.le_of_lt inside⟩ }.toArrays := by
      rw [hd]
      rfl
    rw [if_neg (Nat.succ_ne_zero d), CallStack.pop?_of_depth hd inside,
      on_bind_of_ok (on_modify _ _)]
    show on (look _) { s.toArrays with depth := s.stack.depth - 1 } = _
    rw [left]
    exact on_look_of_ok (Stray.look_toArray .slot s.stack.slots inside)

/-! ## Instructions -/

/-- What comes of an attempt that changes nothing if it fails. -/
def allOrNothing : Except StackFault State → Option (Except StackFault Unit × ArrayState)
  | .ok t => some (.ok (), t.toArrays)
  | .error fault => some (.error fault, s.toArrays)

theorem on_ret (advances : Bool) (random : UInt8) (pc : UInt16) :
    on (execute advances random pc .ret) s.toArrays
      = allOrNothing s (s.execute advances random pc .ret) := by
  simp only [execute, State.execute, on_bind, on_pop]
  cases s.stack.pop? <;> rfl

theorem on_call (advances : Bool) (random : UInt8) (pc : UInt16) (target : Address) :
    on (execute advances random pc (.call target)) s.toArrays
      = allOrNothing s (s.execute advances random pc (.call target)) := by
  simp only [execute, State.execute]
  rw [on_bind_of_ok (on_get _), on_bind, show s.toArrays.pc = s.pc from rfl, on_push]
  cases s.stack.push? s.pc <;> rfl

theorem on_clearScreen (advances : Bool) (random : UInt8) (pc : UInt16) :
    on (execute advances random pc .clearScreen) s.toArrays
      = allOrNothing s (s.execute advances random pc .clearScreen) := by
  simp only [execute, on_bind, on_modify, Option.bind_some]
  show some (Except.ok (), _) = some (Except.ok (), _)
  rw [State.clear_toArrays]

theorem on_draw (advances : Bool) (random : UInt8) (pc : UInt16) (x y : Register) (n : Fin 16) :
    on (execute advances random pc (.draw x y n)) s.toArrays
      = allOrNothing s (s.execute advances random pc (.draw x y n)) := by
  have sprite : on (look fun a => a.readBytes a.index n.val) s.toArrays
      = some (.ok (s.memory.getAll s.index n.val), s.toArrays) :=
    on_look_of_ok (State.readBytes_toArrays s s.index n.val)
  simp only [execute]
  rw [on_bind_of_ok sprite, on_bind_of_ok (on_readRegister s x),
    on_bind_of_ok (on_readRegister s y), on_bind_of_ok (on_drawSprite s _ _ _),
    on_bind_of_ok (on_writeFlag _ _)]
  rfl

theorem on_storeDecimal (advances : Bool) (random : UInt8) (pc : UInt16) (x : Register) :
    on (execute advances random pc (.storeDecimal x)) s.toArrays
      = allOrNothing s (s.execute advances random pc (.storeDecimal x)) := by
  have third : s.index + 2 = s.index + 1 + 1 := by rw [UInt16.add_assoc]; rfl
  simp only [execute, on_bind, on_get, on_readRegister, Option.bind_some, State.toArrays_index,
    on_writeByte, third]
  rfl

theorem on_storeRegisters (advances : Bool) (random : UInt8) (pc : UInt16) (x : Register) :
    on (execute advances random pc (.storeRegisters x)) s.toArrays
      = allOrNothing s (s.execute advances random pc (.storeRegisters x)) := by
  have stored : on ((List.range (x.val + 1)).forM storeRegister) s.toArrays
      = some (.ok (), State.toArrays { s with
          memory := s.memory.setAll s.index (s.registers.values.toList.take (x.val + 1)) }) := by
    rw [on_forM on_storeRegister]
    show (s.toArrays.storeRegisters (x.val + 1)).toOption.map _ = _
    rw [State.storeRegisters_toArrays s x.isLt]
    rfl
  simp only [execute]
  rw [on_bind_of_ok stored]
  exact on_advanceIndex _ advances x

theorem on_loadRegisters (advances : Bool) (random : UInt8) (pc : UInt16) (x : Register) :
    on (execute advances random pc (.loadRegisters x)) s.toArrays
      = allOrNothing s (s.execute advances random pc (.loadRegisters x)) := by
  have loaded : on ((List.range (x.val + 1)).forM loadRegister) s.toArrays
      = some (.ok (), { s with registers := s.registers.writeThrough x s.loaded }.toArrays) := by
    rw [on_forM on_loadRegister]
    show (s.toArrays.loadRegisters (x.val + 1)).toOption.map _ = _
    rw [State.loadRegisters_toArrays]
    rfl
  simp only [execute]
  rw [on_bind_of_ok loaded]
  exact on_advanceIndex _ advances x

/-- **An instruction that fails has written nothing**, and one that succeeds has done in place what
it does to a state. -/
theorem on_execute (advances : Bool) (random : UInt8) (pc : UInt16) (ins : Instruction) :
    on (execute advances random pc ins) s.toArrays
      = allOrNothing s (s.execute advances random pc ins) := by
  cases ins with
  | machineCall | unknown | jump | setIndex => rfl
  | clearScreen => exact on_clearScreen s advances random pc
  | ret => exact on_ret s advances random pc
  | call target => exact on_call s advances random pc target
  | skipEqualConstant | skipNotEqualConstant | skipEqualRegister | skipNotEqualRegister
  | skipIfPressed | skipIfNotPressed =>
    simp only [execute, on_bind, on_get, on_readRegister, Option.bind_some, on_skipIf]
    rfl
  | setRegister | addToRegister | copyRegister | bitOr | bitAnd | bitXor | random
  | copyDelayToRegister | copyRegisterToDelay | copyRegisterToSound | addToIndex | pointAtGlyph =>
    simp only [execute, on_bind, on_get, on_readRegister, Option.bind_some, on_writeRegister]
    rfl
  | add | subtractForward | subtractBackward | rightShift | leftShift =>
    simp only [execute, on_bind, on_readRegister, Option.bind_some, on_writeRegister, on_writeFlag]
    rfl
  | jumpWithOffset target =>
    have first : on (readRegister 0) s.toArrays
      = some (.ok (s.registers.get Registers.V0), s.toArrays) := on_readRegister s Registers.V0
    simp only [execute]
    rw [on_bind_of_ok first]
    rfl
  | draw x y n => exact on_draw s advances random pc x y n
  | waitForKey x =>
    simp only [execute, State.execute]
    rw [on_bind_of_ok (on_get _), show s.toArrays.keypad = s.keypad from rfl]
    cases s.keypad.firstDown with
    | none => rfl
    | some key => exact on_writeRegister s x _
  | storeDecimal x => exact on_storeDecimal s advances random pc x
  | storeRegisters x => exact on_storeRegisters s advances random pc x
  | loadRegisters x => exact on_loadRegisters s advances random pc x

/-- **A step in place is the step.** It ends with the result of `State.step`, and with the storage
that `State.step` gives. -/
theorem on_step (advances : Bool) (random : UInt8) :
    on (step advances random) s.toArrays
      = some ((s.step advances random).2, (s.step advances random).1.toArrays) := by
  have fetched : on (look (·.readWord s.pc)) s.toArrays = some (.ok s.fetch, s.toArrays) :=
    on_look_of_ok (State.readWord_toArrays s s.pc)
  have executed := on_execute { s.noted with pc := State.after s.pc } advances random s.pc
    (Instruction.decode s.fetch)
  unfold step State.step
  rw [on_bind_of_ok (on_get _), show s.toArrays.pc = s.pc from rfl, on_bind_of_ok fetched,
    on_bind_of_ok (on_modify _ _), on_bind_of_ok (on_modify _ _), on_bind_of_ok (on_jumpTo _ _)]
  show on (_ >>= fun _ => _) ({ s.noted with pc := State.after s.pc } : State).toArrays = _
  rw [on_bind, on_tryCatch, executed]
  cases State.execute advances random s.pc { s.noted with pc := State.after s.pc }
    (Instruction.decode s.fetch) with
  | error fault =>
    -- the storage that the instruction was given, with the program counter put back
    rfl
  | ok done => rfl

end Attempt

namespace Interpreter

/-- The next step, taken in place. -/
def stepInPlace (i : Interpreter) (random : UInt8) :
    Option (Except StackFault Executed × ArrayState) :=
  (Attempt.step i.advancesIndex random).on i.state.toArrays

theorem stepInPlace_eq (i : Interpreter) (random : UInt8) :
    i.stepInPlace random = some ((i.step random).2, (i.step random).1.state.toArrays) :=
  Attempt.on_step i.state i.advancesIndex random

end Interpreter

end Chip8
