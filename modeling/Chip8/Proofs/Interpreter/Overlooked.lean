import Chip8.Interpreter

/-!
# What a step overlooks

Two states may differ in something that a step takes no notice of: a flag that is kept for show, a
timer that no instruction at hand reads, a bit that no address has. Such a difference is said by a
function that blanks it out. This file has what is the same for all of them: if the blank is out of
sight of fetching and reporting (`Overlooks`), and the instruction at hand makes the same of a state
and of the state with the blank, then so does the step (`Overlooks.step`).

Which instructions do is not said here. That is a case split, and each blank has its own.
-/

set_option autoImplicit false

namespace Chip8.State

/-- The state once the instruction under way has been reported. -/
def settled (s : State) : State :=
  { s with redraw := false, registers := s.registers.reported }

/-- A step whose instruction succeeds reports what it did, and then there is nothing to report. -/
theorem step_of_execute {s t : State} {advances : Bool} {random : UInt8}
    (h : ({ s.noted with pc := after s.pc } : State).execute advances random s.pc
      (Instruction.decode s.fetch) = .ok t) :
    s.step advances random
      = (t.settled, .ok ⟨⟨s.pc, s.fetch⟩, t.redraw, t.registers.dirty⟩) := by
  unfold step
  rw [h]
  rfl

/-- `f` blanks out something that neither fetching nor reporting looks at. -/
structure Overlooks (f : State → State) : Prop where
  again (s : State) : f (f s) = f s
  fetch (s : State) : (f s).fetch = s.fetch
  pc (s : State) : (f s).pc = s.pc
  redraw (s : State) : (f s).redraw = s.redraw
  dirty (s : State) : (f s).registers.dirty = s.registers.dirty
  noted (s : State) : (f s).noted = f s.noted
  moved (s : State) (pc : UInt16) : { f s with pc := pc } = f { s with pc := pc }
  settled (s : State) : (f s).settled = f s.settled

namespace Overlooks

variable {f : State → State} {s t : State}

theorem settled_congr (hf : Overlooks f) (h : f s = f t) : f s.settled = f t.settled := by
  rw [← hf.settled, h, hf.settled]

/-- **A step overlooks what its instruction overlooks.** -/
theorem step (hf : Overlooks f) {advances advances' : Bool} {random random' : UInt8}
    (h : ((f { s.noted with pc := after s.pc }).execute advances random s.pc
          (Instruction.decode s.fetch)).map f
        = (({ s.noted with pc := after s.pc } : State).execute advances' random' s.pc
          (Instruction.decode s.fetch)).map f) :
    f ((f s).step advances random).1 = f (s.step advances' random').1
      ∧ ((f s).step advances random).2 = (s.step advances' random').2 := by
  unfold State.step
  rw [hf.fetch, hf.pc, hf.noted, hf.moved]
  generalize State.execute advances random s.pc (f { s.noted with pc := after s.pc })
    (Instruction.decode s.fetch) = left at h
  generalize State.execute advances' random' s.pc { s.noted with pc := after s.pc }
    (Instruction.decode s.fetch) = right at h
  cases left with
  | error fault =>
    cases right with
    | error fault' => cases h; exact ⟨hf.again s.noted, rfl⟩
    | ok done' => cases h
  | ok done =>
    cases right with
    | error fault' => cases h
    | ok done' =>
      have same : f done = f done' := Except.ok.inj h
      have redraw : done.redraw = done'.redraw := by rw [← hf.redraw, same, hf.redraw]
      have dirty : done.registers.dirty = done'.registers.dirty := by
        rw [← hf.dirty, same, hf.dirty]
      refine ⟨hf.settled_congr same, ?_⟩
      show Except.ok (Executed.mk _ done.redraw done.registers.dirty) = _
      rw [redraw, dirty]

/-- **Where no instruction looks**, states that differ in nothing else make the same step, and
differ in nothing else afterwards. -/
theorem step_congr (hf : Overlooks f) {advances : Bool} {random : UInt8}
    (h : ∀ pc s ins, ((f s).execute advances random pc ins).map f
      = (s.execute advances random pc ins).map f)
    (same : f s = f t) :
    f (s.step advances random).1 = f (t.step advances random).1
      ∧ (s.step advances random).2 = (t.step advances random).2 := by
  obtain ⟨leftState, leftResult⟩ := hf.step (h s.pc { s.noted with pc := after s.pc } _)
  obtain ⟨rightState, rightResult⟩ := hf.step (h t.pc { t.noted with pc := after t.pc } _)
  rw [same] at leftState leftResult
  exact ⟨leftState.symm.trans rightState, leftResult.symm.trans rightResult⟩

end Overlooks

end Chip8.State
