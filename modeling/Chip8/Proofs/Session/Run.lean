import Chip8.Proofs.Machine.Lifecycle
import Chip8.Session.Basic

/-!
# Runs of a session

A session and the activities of the machine it drives act in any order: a run of a `World` is any
list of turns, each of one participant. `Watched` is a world with one thing on record that decides
nothing, what every instruction executed so far came to, whether the cpu activity executed it or
a step that the session made.
-/

set_option autoImplicit false

namespace Chip8

/-- What an instruction came to. -/
abbrev Outcome := Except StackFault Executed

/-- The faults among outcomes, the first one first. -/
def Outcome.faults (outcomes : List Outcome) : List StackFault :=
  outcomes.filterMap fun outcome =>
    match outcome with
    | .ok _ => none
    | .error fault => some fault

theorem Outcome.mem_faults {f : StackFault} {outcomes : List Outcome} :
    f ∈ faults outcomes ↔ .error f ∈ outcomes := by
  rw [faults, List.mem_filterMap]
  constructor
  · rintro ⟨outcome, h, hf⟩
    cases outcome with
    | ok done => cases hf
    | error g => cases hf; exact h
  · intro h
    exact ⟨.error f, h, rfl⟩

namespace World

/-- An action of one participant, with its moment and the byte that a `CXNN` would draw. -/
structure Turn where
  now : Nat
  random : UInt8
  who : Participant

/-- What the instruction comes to that a turn executes, if it executes one. -/
def executes (w : World) (t : Turn) : List Outcome :=
  match t.who with
  | .activity .cpu =>
    match w.machine.activities with
    | none => []
    | some a =>
      match a.cpu with
      | .due => [(w.machine.execute t.random).2]
      | _ => []
  | .activity _ => []
  | .session =>
    match w.session.point with
    | .calling (.stepHolding events) _ =>
      [((w.machine.refreshKeys t.now events).1.execute t.random).2]
    | _ => []

end World

/-- A world, and what every instruction executed in it came to. -/
structure Watched where
  world : World
  executed : List Outcome

namespace Watched

/-- A session that is about to begin. -/
def start (m : Machine) (input : List Poll) (afterInput : Poll) (screen : Screen) : Watched :=
  ⟨⟨m, Session.new input afterInput screen⟩, []⟩

def act (w : Watched) (t : World.Turn) : Watched :=
  ⟨w.world.act t.now t.random t.who, w.executed ++ w.world.executes t⟩

/-- The world after a list of turns, the first one first. -/
def run (w : Watched) (turns : List World.Turn) : Watched := turns.foldl act w

/-- **What every turn keeps, every run keeps.** -/
theorem run_induction {P : Watched → Prop}
    (keeps : ∀ (w : Watched) (t : World.Turn), P w → P (w.act t)) :
    ∀ (turns : List World.Turn) {w : Watched}, P w → P (w.run turns) := by
  intro turns
  induction turns with
  | nil => intro w h; exact h
  | cons t turns ih => intro w h; exact ih (keeps w t h)

end Watched

end Chip8
