import Chip8.Proofs.Machine.Effects

/-!
# The course of a call

A step and a call that begins or ends a run go through phases of their own. This file follows
`Machine.advance` from phase to phase: which phases belong together, where a run can be about to
begin, and that a stop, once it has returned, leaves no activity behind.

That a call returns at all is not among it. A stop waits for the activities, and those act when
they like.
-/

set_option autoImplicit false

namespace Chip8

namespace Progress

/-- A call that executes one instruction. -/
def isStep : Progress → Bool
  | .step | .stepHolding _ | .sending .. | .returned _ => true
  | _ => false

/-- A call that begins or ends a run. -/
def isLifecycle : Progress → Bool
  | .run | .halting _ | .joining _ | .spawning | .returned _ => true
  | _ => false

def isReturned : Progress → Bool
  | .returned _ => true
  | _ => false

/-- What follows the end of a run. -/
def afterEnd (again : Bool) : Progress := if again then .spawning else .returned (.ok ())

/-- A stop of the machine `m`, somewhere on its way. Once it has returned there is no run. -/
def Stopping (m : Machine) (p : Progress) : Prop :=
  p = .halting false ∨ p = .joining false ∨ (p.isReturned = true ∧ m.activities = none)

end Progress

namespace Machine

/-! ## Steps -/

theorem advance_activities (now : Nat) (random : UInt8) (m : Machine) {p : Progress}
    (h : p.isStep = true) : (m.advance now random p).1.activities = m.activities := by
  cases p with
  | step | stepHolding | returned => rfl
  | sending pending result =>
    cases pending with
    | nil => rfl
    | cons u rest => exact m.notify_activities u
  | run | halting | joining | spawning => cases h

theorem advance_isStep (now : Nat) (random : UInt8) (m : Machine) {p : Progress}
    (h : p.isStep = true) : (m.advance now random p).2.isStep = true := by
  cases p with
  | step | stepHolding | returned => rfl
  | sending pending result => cases pending <;> rfl
  | run | halting | joining | spawning => cases h

/-! ## Beginning and ending runs -/

/-- **Everything that an action of a call can do that begins or ends a run**: where the call
stands before, and the machine and the call after it. -/
inductive Course (m : Machine) : Progress → Machine → Progress → Prop
  | begins (hnone : m.activities = none) : Course m .run m .spawning
  | finds {a : Activities} (ha : m.activities = some a) (running : a.halt = false) :
    Course m .run m (.returned (.ok ()))
  | revives {a : Activities} (ha : m.activities = some a) (halted : a.halt = true) :
    Course m .run m (.halting true)
  | idles {again : Bool} (hnone : m.activities = none) :
    Course m (.halting again) m (Progress.afterEnd again)
  | halts {again : Bool} {a : Activities} (ha : m.activities = some a) :
    Course m (.halting again) (m.log [.stopping]).raiseHalt (.joining again)
  | loses {again : Bool} (hnone : m.activities = none) :
    Course m (.joining again) m (.returned (.ok ()))
  | waits {again : Bool} {a : Activities} (ha : m.activities = some a)
    (hdone : a.allFinished = false) : Course m (.joining again) m (.joining again)
  | reaps {again : Bool} {a : Activities} (ha : m.activities = some a)
    (hdone : a.allFinished = true) (hfault : a.fault = none) :
    Course m (.joining again) { m with activities := none } (Progress.afterEnd again)
  | collects {again : Bool} {a : Activities} {fault : StackFault} (ha : m.activities = some a)
    (hdone : a.allFinished = true) (hfault : a.fault = some fault) :
    Course m (.joining again) { m with activities := none } (.returned (.error fault))
  | spawns : Course m .spawning m.spawn (.returned (.ok ()))
  | rests {result : Except StackFault Unit} : Course m (.returned result) m (.returned result)

theorem advance_course (now : Nat) (random : UInt8) (m : Machine) {p : Progress}
    (h : p.isLifecycle = true) :
    Course m p (m.advance now random p).1 (m.advance now random p).2 := by
  cases p with
  | run =>
    cases ha : m.activities with
    | none => simp only [advance, ha]; exact .begins ha
    | some a =>
      simp only [advance, ha]
      split
      · next halted => exact .revives ha halted
      · next running => exact .finds ha (Bool.eq_false_iff.mpr running)
  | halting again =>
    cases ha : m.activities with
    | none => simp only [advance, ha]; exact .idles ha
    | some a => simp only [advance, ha]; exact .halts ha
  | joining again =>
    cases ha : m.activities with
    | none => simp only [advance, ha]; exact .loses ha
    | some a =>
      -- to join is to wait; with the last of the activities gone, what is left is the fault, if
      -- there is one
      by_cases hdone : a.allFinished = true
      · cases hfault : a.fault with
        | none =>
          simp only [advance, reap, ha, hdone, if_true, Option.bind_some, hfault]
          exact .reaps ha hdone hfault
        | some fault =>
          simp only [advance, reap, ha, hdone, if_true, Option.bind_some, hfault]
          exact .collects ha hdone hfault
      · simp only [advance, ha, if_neg hdone]
        exact .waits ha (Bool.eq_false_iff.mpr hdone)
  | spawning => exact .spawns
  | returned => exact .rests
  | step | stepHolding | sending => cases h

namespace Course

variable {m m' : Machine} {p q : Progress}

theorem isLifecycle (h : Course m p m' q) : q.isLifecycle = true := by
  cases h with
  | @idles again | @reaps again => cases again <;> rfl
  | _ => rfl

/-- A run is about to begin only where there is none. -/
theorem spawning (h : Course m p m' q) (hq : q = .spawning) : m'.activities = none := by
  cases h with
  | begins hnone | idles hnone => exact hnone
  | reaps => rfl
  | _ => cases hq

/-- A stop comes to its end, and leaves no activity behind. -/
theorem stopping (h : Course m p m' q) (hp : p.Stopping m) : q.Stopping m' := by
  cases h with
  | begins | finds | revives | spawns => rcases hp with hp | hp | ⟨hp, -⟩ <;> cases hp
  | @idles again hnone =>
    rcases hp with hp | hp | ⟨hp, -⟩ <;> cases hp
    exact .inr (.inr ⟨rfl, hnone⟩)
  | halts =>
    rcases hp with hp | hp | ⟨hp, -⟩ <;> cases hp
    exact .inr (.inl rfl)
  | loses hnone => exact .inr (.inr ⟨rfl, hnone⟩)
  | waits => exact hp
  | @reaps again =>
    rcases hp with hp | hp | ⟨hp, -⟩ <;> cases hp
    exact .inr (.inr ⟨rfl, rfl⟩)
  | collects => exact .inr (.inr ⟨rfl, rfl⟩)
  | rests => exact hp

end Course

theorem advance_spawning (now : Nat) (random : UInt8) (m : Machine) {p : Progress}
    (h : (m.advance now random p).2 = .spawning) :
    (m.advance now random p).1.activities = none := by
  cases p with
  | step | stepHolding => cases h
  | sending pending result => cases pending <;> cases h
  | run | halting | joining | spawning | returned =>
    exact (m.advance_course now random rfl).spawning h

theorem advance_stopping (now : Nat) (random : UInt8) (m : Machine) {p : Progress}
    (h : p.Stopping m) : (m.advance now random p).2.Stopping (m.advance now random p).1 := by
  have lifecycle : p.isLifecycle = true := by
    rcases h with rfl | rfl | ⟨hp, -⟩
    · rfl
    · rfl
    · cases p with
      | returned => rfl
      | _ => cases hp
  exact (m.advance_course now random lifecycle).stopping h

end Machine

end Chip8
