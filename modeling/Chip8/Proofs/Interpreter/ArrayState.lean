import Chip8.Interpreter

/-!
# The state on plain arrays

`State` keeps memory, registers, call stack and pixels in vectors of fixed length and numbers them
by types that fit, so an access outside of them cannot even be written down. That is convenient,
and it hides a question: does an instruction ever *compute* a number that lies outside?

`ArrayState` is the same state with nothing fixed. Its storage is four arrays of whatever length
and its pixels are bytes. An element is read and written by a plain number, and an access that
misses ends the step with a `Stray` that says which. `ArrayState.step` is written the long way on
purpose: registers are copied one by one, a sprite is drawn pixel by pixel, and the number of a
pixel is computed from its column and row.

That a step strays nowhere and does what `State.step` does is proved where the two are compared.
-/

set_option autoImplicit false

namespace Chip8

/-- An access outside a stretch of storage, by the number that was used. -/
inductive Stray where
  | memory (address : Nat)
  | register (number : Nat)
  | slot (number : Nat)
  | pixel (number : Nat)
  deriving DecidableEq, Repr

namespace Stray

/-- The element of that number. -/
def look {α : Type} (stray : Nat → Stray) (a : Array α) (n : Nat) : Except Stray α :=
  match a[n]? with
  | some value => .ok value
  | none => .error (stray n)

/-- The array with the element of that number replaced. -/
def put {α : Type} (stray : Nat → Stray) (a : Array α) (n : Nat) (value : α) :
    Except Stray (Array α) :=
  if h : n < a.size then .ok (a.set n value h) else .error (stray n)

end Stray

structure ArrayState where
  memory : Array UInt8
  values : Array UInt8
  changed : Array Bool
  dirty : Bool
  index : UInt16
  pc : UInt16
  slots : Array UInt16
  depth : Nat
  delayTimer : UInt8
  soundTimer : UInt8
  keypad : Keypad
  /-- one byte a pixel, row after row, 1 for lit -/
  pixels : Array UInt8
  redraw : Bool
  opcode : Opcode
  last : Option Listing

namespace ArrayState

open Stray

/-! ## Single accesses -/

/-- Only the low twelve bits of the address count. -/
def readByte (a : ArrayState) (addr : UInt16) : Except Stray UInt8 :=
  look .memory a.memory (addr.toNat % 4096)

def writeByte (a : ArrayState) (addr : UInt16) (value : UInt8) : Except Stray ArrayState := do
  let memory ← put .memory a.memory (addr.toNat % 4096) value
  return { a with memory := memory }

def readWord (a : ArrayState) (addr : UInt16) : Except Stray UInt16 := do
  let high ← a.readByte addr
  let low ← a.readByte (addr + 1)
  return high.toUInt16 * 256 + low.toUInt16

def readRegister (a : ArrayState) (x : Nat) : Except Stray UInt8 :=
  look .register a.values x

def writeRegister (a : ArrayState) (x : Nat) (value : UInt8) : Except Stray ArrayState := do
  let values ← put .register a.values x value
  let changed ← put .register a.changed x true
  return { a with values := values, changed := changed, dirty := true }

def writeWithFlag (a : ArrayState) (x : Nat) (result : UInt8) (flag : Bool) :
    Except Stray ArrayState := do
  let a ← a.writeRegister x result
  a.writeRegister 15 (if flag then 1 else 0)

/-! ## Drawing

The pixels and, beside them, whether a lit one has gone out so far. -/

/-- Flips the pixel in column `x` of row `y`, if the screen has it. -/
def flip (d : Array UInt8 × Bool) (x y : Nat) : Except Stray (Array UInt8 × Bool) :=
  if x < 64 ∧ y < 32 then do
    let lit ← look .pixel d.1 (y * 64 + x)
    let pixels ← put .pixel d.1 (y * 64 + x) (lit ^^^ 1)
    return (pixels, d.2 || lit == 1)
  else return d

/-- Flips the pixels that one sprite row covers. -/
def flipRow (d : Array UInt8 × Bool) (x y : Nat) (bits : UInt8) :
    Except Stray (Array UInt8 × Bool) :=
  (List.range 8).foldlM
    (fun d column => if bits.toNat.testBit (7 - column) then flip d (x + column) y else return d) d

def flipRows (d : Array UInt8 × Bool) (x y : Nat) :
    List UInt8 → Except Stray (Array UInt8 × Bool)
  | [] => return d
  | bits :: below => do
    let d ← flipRow d x y bits
    flipRows d x (y + 1) below

/-! ## Loops of accesses -/

/-- The bytes at `addr`, `addr + 1` and so on. -/
def readBytes (a : ArrayState) (addr : UInt16) (count : Nat) : Except Stray (List UInt8) :=
  (List.range count).mapM fun k => a.readByte (addr + UInt16.ofNat k)

/-- Stores register `k` at its place behind the index register. -/
def storeRegister (a : ArrayState) (k : Nat) : Except Stray ArrayState := do
  let value ← a.readRegister k
  a.writeByte (a.index + UInt16.ofNat k) value

/-- Loads register `k` from its place behind the index register. -/
def loadRegister (a : ArrayState) (k : Nat) : Except Stray ArrayState := do
  let value ← a.readByte (a.index + UInt16.ofNat k)
  a.writeRegister k value

/-- Stores the first `count` registers, one after the other. -/
def storeRegisters (a : ArrayState) (count : Nat) : Except Stray ArrayState :=
  (List.range count).foldlM storeRegister a

/-- Loads the first `count` registers, one after the other. -/
def loadRegisters (a : ArrayState) (count : Nat) : Except Stray ArrayState :=
  (List.range count).foldlM loadRegister a

/-! ## Instructions -/

def skipIf (a : ArrayState) (condition : Bool) : ArrayState :=
  if condition then { a with pc := State.after a.pc } else a

def advanceIndex (a : ArrayState) (advances : Bool) (x : Nat) : ArrayState :=
  if advances then { a with index := a.index + UInt16.ofNat (x + 1) } else a

/-- Executes an instruction that was fetched from `pc`. -/
def execute (advances : Bool) (random : UInt8) (pc : UInt16) (a : ArrayState) :
    Instruction → Except Stray (Except StackFault ArrayState)
  | .machineCall _ | .unknown _ => return .ok a
  | .clearScreen => return .ok { a with pixels := a.pixels.map fun _ => 0, redraw := true }
  | .ret =>
    if a.depth = 0 then return .error (.underflow pc)
    else do
      let addr ← look .slot a.slots (a.depth - 1)
      return .ok { a with depth := a.depth - 1, pc := addr }
  | .jump target => return .ok { a with pc := target.toWord }
  | .call target =>
    if 16 ≤ a.depth then return .error (.overflow pc)
    else do
      let slots ← put .slot a.slots a.depth a.pc
      return .ok { a with slots := slots, depth := a.depth + 1, pc := target.toWord }
  | .skipEqualConstant x nn => do
    let vx ← a.readRegister x.val
    return .ok (a.skipIf (vx == nn))
  | .skipNotEqualConstant x nn => do
    let vx ← a.readRegister x.val
    return .ok (a.skipIf (vx != nn))
  | .skipEqualRegister x y => do
    let vx ← a.readRegister x.val
    let vy ← a.readRegister y.val
    return .ok (a.skipIf (vx == vy))
  | .skipNotEqualRegister x y => do
    let vx ← a.readRegister x.val
    let vy ← a.readRegister y.val
    return .ok (a.skipIf (vx != vy))
  | .setRegister x nn => do
    return .ok (← a.writeRegister x.val nn)
  | .addToRegister x nn => do
    let vx ← a.readRegister x.val
    return .ok (← a.writeRegister x.val (vx + nn))
  | .copyRegister x y => do
    let vy ← a.readRegister y.val
    return .ok (← a.writeRegister x.val vy)
  | .bitOr x y => do
    let vx ← a.readRegister x.val
    let vy ← a.readRegister y.val
    return .ok (← a.writeRegister x.val (vx ||| vy))
  | .bitAnd x y => do
    let vx ← a.readRegister x.val
    let vy ← a.readRegister y.val
    return .ok (← a.writeRegister x.val (vx &&& vy))
  | .bitXor x y => do
    let vx ← a.readRegister x.val
    let vy ← a.readRegister y.val
    return .ok (← a.writeRegister x.val (vx ^^^ vy))
  | .add x y => do
    let vx ← a.readRegister x.val
    let vy ← a.readRegister y.val
    return .ok (← a.writeWithFlag x.val (vx + vy) (255 < vx.toNat + vy.toNat))
  | .subtractForward x y => do
    let vx ← a.readRegister x.val
    let vy ← a.readRegister y.val
    return .ok (← a.writeWithFlag x.val (vx - vy) (vy < vx))
  | .subtractBackward x y => do
    let vx ← a.readRegister x.val
    let vy ← a.readRegister y.val
    return .ok (← a.writeWithFlag x.val (vy - vx) (vx < vy))
  | .rightShift x _ => do
    let vx ← a.readRegister x.val
    return .ok (← a.writeWithFlag x.val (vx >>> 1) (vx % 2 == 1))
  | .leftShift x _ => do
    let vx ← a.readRegister x.val
    return .ok (← a.writeWithFlag x.val (vx <<< 1) (128 ≤ vx))
  | .setIndex target => return .ok { a with index := target.toWord }
  | .jumpWithOffset target => do
    let v0 ← a.readRegister 0
    return .ok { a with pc := (target.toWord + v0.toUInt16) % 4096 }
  | .random x nn => do
    return .ok (← a.writeRegister x.val (random &&& nn))
  | .draw x y n => do
    let sprite ← a.readBytes a.index n.val
    let vx ← a.readRegister x.val
    let vy ← a.readRegister y.val
    let (pixels, collision) ← flipRows (a.pixels, false) vx.toNat vy.toNat sprite
    let a := { a with pixels := pixels, redraw := true }
    return .ok (← a.writeRegister 15 (if collision then 1 else 0))
  | .skipIfPressed x => do
    let vx ← a.readRegister x.val
    return .ok (a.skipIf (a.keypad.isDown vx))
  | .skipIfNotPressed x => do
    let vx ← a.readRegister x.val
    return .ok (a.skipIf (!a.keypad.isDown vx))
  | .copyDelayToRegister x => do
    return .ok (← a.writeRegister x.val a.delayTimer)
  | .waitForKey x =>
    match a.keypad.firstDown with
    | some key => do return .ok (← a.writeRegister x.val (UInt8.ofNat key.val))
    | none => return .ok { a with pc := pc }
  | .copyRegisterToDelay x => do
    let vx ← a.readRegister x.val
    return .ok { a with delayTimer := vx }
  | .copyRegisterToSound x => do
    let vx ← a.readRegister x.val
    return .ok { a with soundTimer := vx }
  | .addToIndex x => do
    let vx ← a.readRegister x.val
    return .ok { a with index := a.index + vx.toUInt16 }
  | .pointAtGlyph x => do
    let vx ← a.readRegister x.val
    return .ok { a with index := Memory.glyphAddress vx }
  | .storeDecimal x => do
    let vx ← a.readRegister x.val
    let a ← a.writeByte a.index (vx / 100)
    let a ← a.writeByte (a.index + 1) (vx / 10 % 10)
    let a ← a.writeByte (a.index + 2) (vx % 10)
    return .ok a
  | .storeRegisters x => do
    let stored ← a.storeRegisters (x.val + 1)
    return .ok (stored.advanceIndex advances x.val)
  | .loadRegisters x => do
    let loaded ← a.loadRegisters (x.val + 1)
    return .ok (loaded.advanceIndex advances x.val)

/-- Runs one instruction. An access that strays ends it without a state. -/
def step (advances : Bool) (random : UInt8) (a : ArrayState) :
    Except Stray (ArrayState × Except StackFault Executed) := do
  let opcode ← a.readWord a.pc
  let noted := { a with opcode := opcode, last := some ⟨a.pc, opcode⟩ }
  let outcome ← execute advances random a.pc { noted with pc := State.after a.pc }
    (Instruction.decode opcode)
  match outcome with
  | .error fault => return (noted, .error fault)
  | .ok done =>
    return ({ done with redraw := false, dirty := false },
      .ok { listing := ⟨a.pc, opcode⟩, redraw := done.redraw, registersChanged := done.dirty })

end ArrayState

namespace State

/-- The state with its storage laid out in arrays. -/
def toArrays (s : State) : ArrayState where
  memory := s.memory.bytes.toArray
  values := s.registers.values.toArray
  changed := s.registers.changed.toArray
  dirty := s.registers.dirty
  index := s.index
  pc := s.pc
  slots := s.stack.slots.toArray
  depth := s.stack.depth
  delayTimer := s.delayTimer
  soundTimer := s.soundTimer
  keypad := s.keypad
  pixels := s.frame.toBytes.toArray
  redraw := s.redraw
  opcode := s.opcode
  last := s.last

end State

end Chip8
