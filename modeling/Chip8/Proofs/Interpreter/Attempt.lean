import Chip8.Proofs.FrameBuffer.Edges

/-!
# A step in place

`State.step` gives back a new state or a fault, so of an instruction that fails it cannot even be
said that it had already changed something. `Attempt.step` is the step as a machine takes it, on
storage that stays changed whatever comes of it. It notes the instruction, moves the program counter
past it, and lets it do its work one write after the other. If the instruction fails, the program
counter is put back. Nothing else is: whatever the instruction had written by then would stay.

The storage is the arrays of `ArrayState`, so a call writes a slot and then the depth, a register is
written together with its marks in three writes, blocks of registers go one by one, and a sprite is
drawn by the loop that stops at the edges. This file has the attempts and how they are put together;
what they come to on the arrays of a state is proved where the two are compared.
-/

set_option autoImplicit false

namespace Chip8

/-- An attempt on storage in place. It ends with an answer or a fault, and either way with the
storage as it leaves it. There is no ending at all if an access strays, or if a sum that is needed
is no word. -/
abbrev Attempt (α : Type) := ExceptT StackFault (StateT ArrayState Option) α

namespace Attempt

variable {α β : Type}

/-- What comes of an attempt on given storage. -/
def on (x : Attempt α) (a : ArrayState) : Option (Except StackFault α × ArrayState) := x.run.run a

/-! ## Single accesses -/

def look (f : ArrayState → Except Stray α) : Attempt α := do
  (f (← get)).toOption

def change (f : ArrayState → Except Stray ArrayState) : Attempt Unit := do
  set (← look f)

def readRegister (x : Nat) : Attempt UInt8 := look (·.readRegister x)

/-- The value, the mark and the note that something was written, each by itself. -/
def writeRegister (x : Nat) (value : UInt8) : Attempt Unit := do
  change fun a => return { a with values := ← Stray.put .register a.values x value }
  change fun a => return { a with changed := ← Stray.put .register a.changed x true }
  modify fun a => { a with dirty := true }

/-- Register 15 is the flag register. -/
def writeFlag (flag : Bool) : Attempt Unit := writeRegister 15 (if flag then 1 else 0)

def readByte (addr : UInt16) : Attempt UInt8 := look (·.readByte addr)

def writeByte (addr : UInt16) (value : UInt8) : Attempt Unit := change (·.writeByte addr value)

def jumpTo (addr : UInt16) : Attempt Unit := modify fun a => { a with pc := addr }

def skipIf (condition : Bool) : Attempt Unit := do
  if condition then jumpTo (State.after (← get).pc)

def pointAt (addr : UInt16) : Attempt Unit := modify fun a => { a with index := addr }

def writeSlot (n : Nat) (addr : UInt16) : Attempt Unit :=
  change fun a => return { a with slots := ← Stray.put .slot a.slots n addr }

def requestRedraw : Attempt Unit := modify fun a => { a with redraw := true }

/-- Enters a call, for the instruction at `pc`. -/
def push (addr pc : UInt16) : Attempt Unit := do
  if 16 ≤ (← get).depth then throw (.overflow pc)
  writeSlot (← get).depth addr
  modify fun a => { a with depth := a.depth + 1 }

/-- Leaves a call, for the instruction at `pc`. -/
def pop (pc : UInt16) : Attempt UInt16 := do
  if (← get).depth = 0 then throw (.underflow pc)
  modify fun a => { a with depth := a.depth - 1 }
  look fun a => Stray.look .slot a.slots a.depth

/-- Draws on the screen, and says whether a lit pixel went out. -/
def drawSprite (x y : Nat) (sprite : List UInt8) : Attempt Bool := do
  let (pixels, collision) ← Blit.draw? (← get).pixels x y sprite
  modify fun a => { a with pixels := pixels }
  return collision

/-- Stores register `k` at its place behind the index register. -/
def storeRegister (k : Nat) : Attempt Unit := do
  let value ← readRegister k
  writeByte ((← get).index + UInt16.ofNat k) value

/-- Loads register `k` from its place behind the index register. -/
def loadRegister (k : Nat) : Attempt Unit := do
  let value ← readByte ((← get).index + UInt16.ofNat k)
  writeRegister k value

def advanceIndex (advances : Bool) (x : Nat) : Attempt Unit := do
  if advances then pointAt ((← get).index + UInt16.ofNat (x + 1))

/-! ## Steps -/

/-- Executes an instruction that was fetched from `pc`. -/
def execute (advances : Bool) (random : UInt8) (pc : UInt16) : Instruction → Attempt Unit
  | .machineCall _ | .unknown _ => return
  | .clearScreen => do
    modify fun a => { a with pixels := a.pixels.map fun _ => 0 }
    requestRedraw
  | .ret => do
    jumpTo (← pop pc)
  | .jump target => jumpTo target.toWord
  | .call target => do
    push (← get).pc pc
    jumpTo target.toWord
  | .skipEqualConstant x nn => do
    skipIf ((← readRegister x.val) == nn)
  | .skipNotEqualConstant x nn => do
    skipIf ((← readRegister x.val) != nn)
  | .skipEqualRegister x y => do
    skipIf ((← readRegister x.val) == (← readRegister y.val))
  | .skipNotEqualRegister x y => do
    skipIf ((← readRegister x.val) != (← readRegister y.val))
  | .setRegister x nn => writeRegister x.val nn
  | .addToRegister x nn => do
    writeRegister x.val ((← readRegister x.val) + nn)
  | .copyRegister x y => do
    writeRegister x.val (← readRegister y.val)
  | .bitOr x y => do
    writeRegister x.val ((← readRegister x.val) ||| (← readRegister y.val))
  | .bitAnd x y => do
    writeRegister x.val ((← readRegister x.val) &&& (← readRegister y.val))
  | .bitXor x y => do
    writeRegister x.val ((← readRegister x.val) ^^^ (← readRegister y.val))
  | .add x y => do
    let vx ← readRegister x.val
    let vy ← readRegister y.val
    writeRegister x.val (vx + vy)
    writeFlag (255 < vx.toNat + vy.toNat)
  | .subtractForward x y => do
    let vx ← readRegister x.val
    let vy ← readRegister y.val
    writeRegister x.val (vx - vy)
    writeFlag (vy < vx)
  | .subtractBackward x y => do
    let vx ← readRegister x.val
    let vy ← readRegister y.val
    writeRegister x.val (vy - vx)
    writeFlag (vx < vy)
  | .rightShift x _ => do
    let vx ← readRegister x.val
    writeRegister x.val (vx >>> 1)
    writeFlag (vx % 2 == 1)
  | .leftShift x _ => do
    let vx ← readRegister x.val
    writeRegister x.val (vx <<< 1)
    writeFlag (128 ≤ vx)
  | .setIndex target => pointAt target.toWord
  | .jumpWithOffset target => do
    jumpTo ((target.toWord + (← readRegister 0).toUInt16) % 4096)
  | .random x nn => writeRegister x.val (random &&& nn)
  | .draw x y n => do
    let sprite ← look fun a => a.readBytes a.index n.val
    let vx ← readRegister x.val
    let vy ← readRegister y.val
    let collision ← drawSprite vx.toNat vy.toNat sprite
    writeFlag collision
    requestRedraw
  | .skipIfPressed x => do
    let vx ← readRegister x.val
    skipIf ((← get).keypad.isDown vx)
  | .skipIfNotPressed x => do
    let vx ← readRegister x.val
    skipIf (!(← get).keypad.isDown vx)
  | .copyDelayToRegister x => do
    writeRegister x.val (← get).delayTimer
  | .waitForKey x => do
    match (← get).keypad.firstDown with
    | some key => writeRegister x.val (UInt8.ofNat key.val)
    | none => jumpTo pc
  | .copyRegisterToDelay x => do
    let vx ← readRegister x.val
    modify fun a => { a with delayTimer := vx }
  | .copyRegisterToSound x => do
    let vx ← readRegister x.val
    modify fun a => { a with soundTimer := vx }
  | .addToIndex x => do
    let vx ← readRegister x.val
    pointAt ((← get).index + vx.toUInt16)
  | .pointAtGlyph x => do
    pointAt (Memory.glyphAddress (← readRegister x.val))
  | .storeDecimal x => do
    let vx ← readRegister x.val
    writeByte (← get).index (vx / 100)
    writeByte ((← get).index + 1) (vx / 10 % 10)
    writeByte ((← get).index + 2) (vx % 10)
  | .storeRegisters x => do
    (List.range (x.val + 1)).forM storeRegister
    advanceIndex advances x.val
  | .loadRegisters x => do
    (List.range (x.val + 1)).forM loadRegister
    advanceIndex advances x.val

/-- Runs one instruction. Catching a fault takes nothing back by itself: the storage that is seen
from there on is the storage that the instruction left. -/
def step (advances : Bool) (random : UInt8) : Attempt Executed := do
  let pc := (← get).pc
  let opcode ← look (·.readWord pc)
  modify fun a => { a with opcode := opcode }
  modify fun a => { a with last := some ⟨pc, opcode⟩ }
  jumpTo (State.after pc)
  try
    execute advances random pc (Instruction.decode opcode)
  catch fault =>
    jumpTo pc
    throw fault
  let redraw := (← get).redraw
  modify fun a => { a with redraw := false }
  let registersChanged := (← get).dirty
  modify fun a => { a with dirty := false }
  return ⟨⟨pc, opcode⟩, redraw, registersChanged⟩

/-! ## What attempts come to -/

theorem on_bind (x : Attempt α) (f : α → Attempt β) (a : ArrayState) :
    on (x >>= f) a = (on x a).bind fun (ended, a') =>
      match ended with
      | .ok v => on (f v) a'
      | .error fault => some (.error fault, a') := by
  show ((x.run.run a).bind fun (ended, a') => (ExceptT.bindCont f ended).run a') = _
  refine congrArg (Option.bind _) (funext fun (ended, a') => ?_)
  cases ended <;> rfl

theorem on_tryCatch (x : Attempt α) (handle : StackFault → Attempt α) (a : ArrayState) :
    on (tryCatch x handle) a = (on x a).bind fun (ended, a') =>
      match ended with
      | .ok v => some (.ok v, a')
      | .error fault => on (handle fault) a' := by
  show ((x.run.run a).bind fun (ended, a') => _) = _
  refine congrArg (Option.bind _) (funext fun (ended, a') => ?_)
  cases ended <;> rfl

/-- What is done first, when it ends with an answer. -/
theorem on_bind_of_ok {x : Attempt α} {a a' : ArrayState} {v : α}
    (h : on x a = some (.ok v, a')) (f : α → Attempt β) : on (x >>= f) a = on (f v) a' := by
  rw [on_bind, h]
  rfl

@[simp] theorem on_get (a : ArrayState) : on get a = some (.ok a, a) := rfl

@[simp] theorem on_modify (f : ArrayState → ArrayState) (a : ArrayState) :
    on (modify f) a = some (.ok (), f a) := rfl

/-- What is written before a fault stays. -/
example (a : ArrayState) (fault : StackFault) :
    on (do jumpTo 0x300; throw fault : Attempt Unit) a
      = some (.error fault, { a with pc := 0x300 }) := rfl

theorem on_look (f : ArrayState → Except Stray α) (a : ArrayState) :
    on (look f) a = (f a).toOption.map fun v => (.ok v, a) := by
  unfold look
  rw [on_bind_of_ok (on_get a)]
  cases f a <;> rfl

theorem on_change (f : ArrayState → Except Stray ArrayState) (a : ArrayState) :
    on (change f) a = (f a).toOption.map fun a' => (.ok (), a') := by
  unfold change
  rw [on_bind, on_look]
  cases f a <;> rfl

theorem on_look_of_ok {f : ArrayState → Except Stray α} {a : ArrayState} {v : α}
    (h : f a = .ok v) : on (look f) a = some (.ok v, a) := by
  rw [on_look, h]
  rfl

theorem on_change_of_ok {f : ArrayState → Except Stray ArrayState} {a a' : ArrayState}
    (h : f a = .ok a') : on (change f) a = some (.ok (), a') := by
  rw [on_change, h]
  rfl

end Attempt

end Chip8
