import Chip8.Proofs.FrameBuffer.Sprite
import Chip8.Proofs.Instruction.Spelling
import Chip8.Proofs.Interpreter.Overlooked
import Chip8.Proofs.Interpreter.Run
import Chip8.Proofs.Memory.Wrapping

/-!
# Drawing from memory

`DXYN` takes a sprite from memory, a place from two registers, and leaves the collision in a third.
The three can meet: the index register may run over the top of memory, and `VF` may be one of the
registers that say where to draw. This file says that nothing comes of it. The sprite is the block
of bytes at the index register, memory being without end; the place is what the two registers held
before; and the flag is written behind everything else (`step_draw`, `draws_from_memory`).

Where the bits of a sprite go on the screen is said in the file on sprites.
-/

set_option autoImplicit false

namespace Chip8

theorem Instruction.decode_of_family_draw {op : Opcode} (h : op.family = 0xD) :
    decode op = .draw op.x op.y op.n :=
  decode_of_spelled ⟨h, rfl, rfl, rfl⟩

namespace State

/-- What the opcode at the program counter would draw, if it is `DXYN`. -/
def drawing (s : State) : FrameBuffer.Drawing :=
  s.frame.drawSprite (s.registers.get s.fetch.x).toNat (s.registers.get s.fetch.y).toNat
    (s.memory.block s.index.toNat s.fetch.n.val)

theorem step_draw {s : State} (draws : s.fetch.family = 0xD) (advances : Bool) (random : UInt8) :
    s.step advances random =
      ({ s.noted with
          pc := after s.pc, frame := s.drawing.frame, redraw := false
          registers :=
            (s.registers.write Registers.VF (if s.drawing.collision then 1 else 0)).reported },
        .ok ⟨⟨s.pc, s.fetch⟩, true, true⟩) := by
  refine step_of_execute (t := { s.noted with
    pc := after s.pc, frame := s.drawing.frame, redraw := true
    registers := s.registers.write Registers.VF (if s.drawing.collision then 1 else 0) }) ?_
  rw [Instruction.decode_of_family_draw draws]
  simp only [execute, Memory.getAll_eq_block]
  rfl

end State

namespace Interpreter

/-- **A drawing instruction draws what is in memory**, whatever state it meets. Every pixel of the
screen is flipped if the sprite covers it, and stays if not; the rows of the sprite are the bytes at
the index register and behind it, wrapped at the top of memory, and its corner is where `VX` and
`VY` say, without a wrap, so that what falls off the screen on the right or below is lost. `VF` is
then 1 if a lit pixel went out, and 0 if none did, also where it has just said where to draw. Nothing
else of the registers changes, nor do the index register and memory, and the step reports that the
screen and a register were written. -/
theorem draws_from_memory (i : Interpreter) (random : UInt8) (draws : i.state.fetch.family = 0xD) :
    let s := i.state
    let op := s.fetch
    let t := (i.step random).1.state
    let x := (s.registers.get op.x).toNat
    let y := (s.registers.get op.y).toNat
    let sprite := s.memory.block s.index.toNat op.n.val
    (∀ (c : Fin 64) (r : Fin 32),
        t.frame.lit c r = (s.frame.lit c r ^^ FrameBuffer.covers x y sprite c r))
      ∧ ((t.registers.get Registers.VF = 1
            ↔ ∃ c r, s.frame.lit c r = true ∧ t.frame.lit c r = false)
          ∧ (t.registers.get Registers.VF = 0
            ↔ ¬ ∃ c r, s.frame.lit c r = true ∧ t.frame.lit c r = false))
      ∧ (∀ r, r ≠ Registers.VF → t.registers.get r = s.registers.get r)
      ∧ (t.index = s.index ∧ t.memory = s.memory)
      ∧ ∃ done, (i.step random).2 = .ok done
          ∧ done.redraw = true ∧ done.registersChanged = true := by
  intro s op t x y sprite
  obtain ⟨state, result⟩ := Prod.ext_iff.mp (State.step_draw draws i.advancesIndex random)
  have frame : t.frame = (s.frame.drawSprite x y sprite).frame := congrArg State.frame state
  have registers : t.registers = (s.registers.write Registers.VF
      (if (s.frame.drawSprite x y sprite).collision then 1 else 0)).reported :=
    congrArg State.registers state
  -- the flag is written last, over whatever said where to draw
  have flag : t.registers.get Registers.VF
      = if (s.frame.drawSprite x y sprite).collision then 1 else 0 := by
    rw [registers]
    exact Registers.get_write_self _ _ _
  have goesOut := FrameBuffer.collision_iff_goes_out s.frame x y sprite
  rw [← frame] at goesOut
  refine ⟨fun c r => ?_, ⟨?_, ?_⟩, fun r other => ?_, ⟨?_, ?_⟩, ⟨_, result, rfl, rfl⟩⟩
  · rw [frame, FrameBuffer.lit_drawSprite]
  · rw [flag, ← goesOut]
    split <;> simp_all
  · rw [flag, ← goesOut]
    split <;> simp_all
  · rw [registers]
    exact Registers.get_write_of_ne _ _ other.symm
  · exact (congrArg State.index state).trans rfl
  · exact (congrArg State.memory state).trans rfl

/-- Draws the last byte of memory and the top of the glyph of 0 below it, close to the right edge of
the screen, and once more one column further to the left. The column is in `VF`. -/
def overTheTop : Source :=
  ⟨[0x6F, 0x3D, 0xAF, 0xFF, 0xDF, 0x03, 0x6F, 0x3C, 0xDF, 0x03], none⟩

def aboutToRedraw : Interpreter := (new false).run (.load overTheTop :: List.replicate 4 (.step 0))

/-- A row of four pixels, of which one fell off the screen, is met by itself. The column in `VF`
gives way to the collision. -/
theorem draws_from_memory_overTheTop :
    aboutToRedraw.state.fetch.family = 0xD
      ∧ (aboutToRedraw.state.frame.lit 61 1 = true
        ∧ (aboutToRedraw.step 0).1.state.frame.lit 61 1 = false)
      ∧ (aboutToRedraw.state.registers.get Registers.VF = 60
        ∧ (aboutToRedraw.step 0).1.state.registers.get Registers.VF = 1) := by
  obtain ⟨fetched, column, row, block, lit⟩ : aboutToRedraw.state.fetch = 0xDF03
      ∧ aboutToRedraw.state.registers.get Registers.VF = 60
      ∧ aboutToRedraw.state.registers.get Registers.V0 = 0
      ∧ aboutToRedraw.state.memory.block aboutToRedraw.state.index.toNat 3 = [0x00, 0xF0, 0x90]
      ∧ aboutToRedraw.state.frame.lit 61 1 = true := by
    decide +kernel
  have draws : aboutToRedraw.state.fetch.family = 0xD := by rw [fetched]; rfl
  have operands : Opcode.x 0xDF03 = Registers.VF ∧ Opcode.y 0xDF03 = Registers.V0
      ∧ (Opcode.n 0xDF03).val = 3 := by decide
  obtain ⟨pixels, ⟨collides, -⟩, -⟩ := draws_from_memory aboutToRedraw 0 draws
  have out : (aboutToRedraw.step 0).1.state.frame.lit 61 1 = false := by
    have drawn := pixels 61 1
    rw [fetched, operands.1, operands.2.1, operands.2.2, column, row, block, lit] at drawn
    exact drawn
  exact ⟨draws, ⟨lit, out⟩, column, collides.mpr ⟨61, 1, lit, out⟩⟩

end Interpreter

end Chip8
