import Chip8.State

/-!
# The interpreter

Fetch, decode and execute, one instruction at a time. The program counter moves past an
instruction before the instruction is executed, so jumps and calls overwrite it, calls push the
address after the call, skips move it once more, and `FX0A` winds it back to wait for a key.

Two things are not settled by the state and are arguments of `step`: whether `FX55` and `FX65`
leave the index register behind the last register copied, and the random byte of `CXNN`.
-/

set_option autoImplicit false

namespace Chip8

/-- What an instruction did, beyond its effect on the state. -/
structure Executed where
  listing : Listing
  /-- the frame buffer was drawn on -/
  redraw : Bool
  /-- a register was written -/
  registersChanged : Bool
  deriving DecidableEq

namespace State

/-- The address after the instruction at `pc`. -/
def after (pc : UInt16) : UInt16 := (pc + 2) % 4096

def skipIf (s : State) (condition : Bool) : State :=
  if condition then { s with pc := after s.pc } else s

/-- Writes a result and then the flag. The flag comes last, so it wins where the result register
is `VF` itself. -/
def setWithFlag (s : State) (x : Register) (result : UInt8) (flag : Bool) : State :=
  (s.setRegister x result).setRegister Registers.VF (if flag then 1 else 0)

/-- Moves the index register behind registers `V0` to `Vx`, if the machine is set to. -/
def advanceIndex (s : State) (advances : Bool) (x : Register) : State :=
  if advances then { s with index := s.index + UInt16.ofNat (x.val + 1) } else s

/-- Executes an instruction that was fetched from `pc`; the state's program counter is already
past it. -/
def execute (advances : Bool) (random : UInt8) (pc : UInt16) (s : State) :
    Instruction → Except StackFault State
  | .machineCall _ => .ok s
  | .clearScreen => .ok { s with frame := FrameBuffer.blank, redraw := true }
  | .ret =>
    match s.stack.pop? with
    | none => .error (.underflow pc)
    | some (addr, stack) => .ok { s with stack := stack, pc := addr }
  | .jump target => .ok { s with pc := target.toWord }
  | .call target =>
    match s.stack.push? s.pc with
    | none => .error (.overflow pc)
    | some stack => .ok { s with stack := stack, pc := target.toWord }
  | .skipEqualConstant x nn => .ok (s.skipIf (s.registers.get x == nn))
  | .skipNotEqualConstant x nn => .ok (s.skipIf (s.registers.get x != nn))
  | .skipEqualRegister x y => .ok (s.skipIf (s.registers.get x == s.registers.get y))
  | .skipNotEqualRegister x y => .ok (s.skipIf (s.registers.get x != s.registers.get y))
  | .setRegister x nn => .ok (s.setRegister x nn)
  | .addToRegister x nn => .ok (s.setRegister x (s.registers.get x + nn))
  | .copyRegister x y => .ok (s.setRegister x (s.registers.get y))
  | .bitOr x y => .ok (s.setRegister x (s.registers.get x ||| s.registers.get y))
  | .bitAnd x y => .ok (s.setRegister x (s.registers.get x &&& s.registers.get y))
  | .bitXor x y => .ok (s.setRegister x (s.registers.get x ^^^ s.registers.get y))
  | .add x y =>
    let a := s.registers.get x
    let b := s.registers.get y
    .ok (s.setWithFlag x (a + b) (255 < a.toNat + b.toNat))
  | .subtractForward x y =>
    let a := s.registers.get x
    let b := s.registers.get y
    .ok (s.setWithFlag x (a - b) (b < a))
  | .subtractBackward x y =>
    let a := s.registers.get x
    let b := s.registers.get y
    .ok (s.setWithFlag x (b - a) (a < b))
  | .rightShift x _ =>
    let a := s.registers.get x
    .ok (s.setWithFlag x (a >>> 1) (a % 2 == 1))
  | .leftShift x _ =>
    let a := s.registers.get x
    .ok (s.setWithFlag x (a <<< 1) (128 ≤ a))
  | .setIndex target => .ok { s with index := target.toWord }
  | .jumpWithOffset target =>
    .ok { s with pc := (target.toWord + (s.registers.get Registers.V0).toUInt16) % 4096 }
  | .random x nn => .ok (s.setRegister x (random &&& nn))
  | .draw x y n =>
    let sprite := s.memory.getAll s.index n.val
    let drawn := s.frame.drawSprite (s.registers.get x).toNat (s.registers.get y).toNat sprite
    .ok ({ s with frame := drawn.frame, redraw := true }.setRegister Registers.VF
      (if drawn.collision then 1 else 0))
  | .skipIfPressed x => .ok (s.skipIf (s.keypad.isDown (s.registers.get x)))
  | .skipIfNotPressed x => .ok (s.skipIf (!s.keypad.isDown (s.registers.get x)))
  | .copyDelayToRegister x => .ok (s.setRegister x s.delayTimer)
  | .waitForKey x =>
    match s.keypad.firstDown with
    | some key => .ok (s.setRegister x (UInt8.ofNat key.val))
    | none => .ok { s with pc := pc }
  | .copyRegisterToDelay x => .ok { s with delayTimer := s.registers.get x }
  | .copyRegisterToSound x => .ok { s with soundTimer := s.registers.get x }
  | .addToIndex x => .ok { s with index := s.index + (s.registers.get x).toUInt16 }
  | .pointAtGlyph x => .ok { s with index := Memory.glyphAddress (s.registers.get x) }
  | .storeDecimal x =>
    let a := s.registers.get x
    .ok { s with memory := s.memory.setAll s.index [a / 100, a / 10 % 10, a % 10] }
  | .storeRegisters x =>
    let stored := s.registers.values.toList.take (x.val + 1)
    .ok ({ s with memory := s.memory.setAll s.index stored }.advanceIndex advances x)
  | .loadRegisters x =>
    let loaded := s.registers.writeThrough x fun k => s.memory.get (s.index + UInt16.ofNat k.val)
    .ok ({ s with registers := loaded }.advanceIndex advances x)
  | .unknown _ => .ok s

/-- The opcode the program counter points at. -/
def fetch (s : State) : Opcode := s.memory.word s.pc

/-- The state that remembers the instruction at the program counter as its last one. -/
def noted (s : State) : State :=
  { s with opcode := s.fetch, last := some ⟨s.pc, s.fetch⟩ }

/-- Runs one instruction. It is noted before it is executed, so an instruction that fails is the
one shown; the program counter then stays on it. -/
def step (advances : Bool) (random : UInt8) (s : State) : State × Except StackFault Executed :=
  match execute advances random s.pc { s.noted with pc := after s.pc }
      (Instruction.decode s.fetch) with
  | .error fault => (s.noted, .error fault)
  | .ok done =>
    ({ done with redraw := false, registers := done.registers.reported },
      .ok { listing := ⟨s.pc, s.fetch⟩
            redraw := done.redraw
            registersChanged := done.registers.dirty })

/-- Whether the program has nothing left to do: the timers stand still, and the next instruction
jumps to itself or waits for a key while none is down. -/
def isIdle (s : State) : Bool :=
  s.delayTimer == 0 && s.soundTimer == 0 &&
    match Instruction.decode s.fetch with
    | .jump target => target.toWord == s.pc
    | .waitForKey _ => s.keypad.firstDown.isNone
    | _ => false

/-- A program that is idle stays where it is: the instruction is noted, and nothing else changes. -/
theorem step_of_isIdle {s : State} (advances : Bool) (random : UInt8) (idle : s.isIdle) :
    (s.step advances random).1 =
      { s.noted with redraw := false, registers := s.registers.reported } := by
  simp only [isIdle, Bool.and_eq_true] at idle
  obtain ⟨-, idle⟩ := idle
  unfold step
  split at idle
  next target decoded => simp_all [execute, noted]
  next x decoded => simp_all [execute, noted]
  next => cases idle

end State

/-- A machine state together with the way its index register is treated. -/
structure Interpreter where
  state : State
  /-- `FX55` and `FX65` leave the index register behind the last register copied -/
  advancesIndex : Bool
  deriving DecidableEq

namespace Interpreter

def new (advancesIndex : Bool) : Interpreter := ⟨State.initial, advancesIndex⟩

/-- Loads a program into a fresh state. A failed load changes nothing. -/
def load (i : Interpreter) (source : Source) : Interpreter × Except Error Nat :=
  match State.load source with
  | .ok (length, state) => ({ i with state := state }, .ok length)
  | .error e => (i, .error e)

def step (i : Interpreter) (random : UInt8) : Interpreter × Except StackFault Executed :=
  let (state, result) := i.state.step i.advancesIndex random
  ({ i with state := state }, result)

end Interpreter

end Chip8
