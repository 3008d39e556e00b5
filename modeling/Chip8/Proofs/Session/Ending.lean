import Chip8.Machine.Calls
import Chip8.Proofs.Machine.Handover
import Chip8.Proofs.Session.Run

/-!
# What a session leaves behind

A session can end in many places. In some of them the loop has stopped the machine before: where
the user quits, where a fault was met and shown, and where a stop or a run fails. In the others it
gives up on the spot: where the input breaks down, where the screen does, and where a step fails.
The machine is not stopped there, and if it was running it goes on, with nobody left who would hear
of it.

This file says which is which (`session_ending`), for any machine, input and screen, and however
the activities acted in between. That the second kind leaves a running machine behind is no mere
possibility (`left_running`).
-/

set_option autoImplicit false

namespace Chip8

/-- The ways in which a session can end. -/
inductive Exit where
  | quit
  /-- a fault of the running machine was met -/
  | fault
  /-- what a command asked for failed -/
  | command (command : Option Command)
  | input
  | screen

/-- The exits that come after a stop. -/
def Exit.orderly : Exit → Bool
  | quit | fault | command (some .run) | command (some .stop) => true
  | _ => false

/-- A session, and the command that it has obeyed last. -/
structure Attended where
  world : World
  obeyed : Option Command

namespace Attended

def start (m : Machine) (input : List Poll) (afterInput : Poll) (screen : Screen) : Attended :=
  ⟨⟨m, Session.new input afterInput screen⟩, none⟩

variable (a : Attended)

/-- The command that a turn of the session obeys, if it does. -/
def obeys (who : Participant) : Option Command :=
  match who, a.world.session.point, a.world.session.next with
  | .session, .polling, .command c => some c
  | _, _, _ => none

def act (t : World.Turn) : Attended :=
  ⟨a.world.act t.now t.random t.who, (a.obeys t.who).or a.obeyed⟩

def run (turns : List World.Turn) : Attended := turns.foldl act a

/-- How the session ends, if its next action ends it. -/
def exit : Exit :=
  match a.world.session.point with
  | .polling => .input
  | .calling _ .quit => .quit
  | .calling _ (.fault _) => .fault
  | .calling _ _ => .command a.obeyed
  | _ => .screen

end Attended

/-! ## Where calls stand -/

theorem Machine.Course.failed {m m' : Machine} {p q : Progress} (h : Course m p m' q)
    (hp : ∀ f, p = .returned (.error f) → m.activities = none) :
    ∀ f, q = .returned (.error f) → m'.activities = none := by
  intro f hq
  cases h with
  | collects => rfl
  | rests => exact hp f hq
  | @idles again => cases again <;> cases hq
  | @reaps again => rfl
  | _ => cases hq

namespace Progress

/-- A call of the session, somewhere on its way: which kind of call it is, and what is true of the
machine once it has failed. -/
def Attends (m : Machine) (call : Progress) : Purpose → Option Command → Prop
  | .quit, _ | .fault _, _ => call.Stopping m
  | _, some .stop => call.Stopping m
  | _, some .run =>
    call.isLifecycle = true ∧ ∀ f, call = .returned (.error f) → m.activities = none
  | _, some .step => call.isStep = true
  | _, _ => False

theorem Attends.advance {m : Machine} {call : Progress} {purpose : Purpose}
    {obeyed : Option Command} (h : call.Attends m purpose obeyed) (now : Nat) (random : UInt8) :
    (m.advance now random call).2.Attends (m.advance now random call).1 purpose obeyed := by
  unfold Attends at h ⊢
  split at h
  · exact m.advance_stopping now random h
  · exact m.advance_stopping now random h
  · exact m.advance_stopping now random h
  · have course := m.advance_course now random h.1
    exact ⟨course.isLifecycle, course.failed h.2⟩
  · exact m.advance_isStep now random h
  · exact h

theorem Attends.mono {m m' : Machine} {call : Progress} {purpose : Purpose}
    {obeyed : Option Command} (h : call.Attends m purpose obeyed)
    (same : m'.activities = none ↔ m.activities = none) : call.Attends m' purpose obeyed := by
  unfold Attends Stopping at *
  simpa only [same] using h

end Progress

namespace World

/-- Polling the input leaves the activities alone. -/
theorem poll_activities (w : World) : w.poll.machine.activities = w.machine.activities := by
  unfold poll
  split
  · next c _ => cases c <;> rfl
  · rfl
  · rfl
  · rfl
  · dsimp only
    split <;> rfl
  · dsimp only
    split
    · rfl
    · split <;> rfl

end World

/-- Where the loop can be, with the machine `m`. -/
def Point.Attends (m : Machine) (obeyed : Option Command) : Point → Prop
  | .calling call purpose => call.Attends m purpose obeyed
  | _ => True

namespace Attended

def Placed (a : Attended) : Prop := a.world.session.point.Attends a.world.machine a.obeyed

variable {a : Attended}

theorem obeys_none {who : Participant} (h : a.world.session.point ≠ .polling) :
    a.obeys who = none := by
  unfold obeys
  split
  · next hp _ => exact absurd hp h
  · rfl

/-- A call that a command asks for. -/
theorem Placed.poll {w : World} (obeyed : Option Command) (hp : w.session.point = .polling) :
    w.poll.session.point.Attends w.poll.machine ((obeys ⟨w, obeyed⟩ .session).or obeyed) := by
  have stays {s : Session} (hs : s.point = .polling) (m : Machine) (o : Option Command) :
      s.point.Attends m o := by
    rw [hs]
    trivial
  unfold World.poll
  cases hn : w.session.next with
  | command c =>
    have asked : obeys ⟨w, obeyed⟩ .session = some c := by simp only [obeys, hp, hn]
    rw [asked]
    cases c with
    | key | scroll => trivial
    | run => exact ⟨rfl, nofun⟩
    | stop | quit => exact Or.inl rfl
    | step => exact rfl
  | nothing | unbound | failure => trivial
  | untilSteps count =>
    dsimp only
    split
    · trivial
    · exact stays hp _ _
  | untilKeysThenSteps count =>
    dsimp only
    split
    · trivial
    · split
      · refine stays ?_ _ _
        unfold Session.replaceNext
        split <;> exact hp
      · exact stays hp _ _

theorem Placed.session {w : World} {obeyed : Option Command} (h : Placed ⟨w, obeyed⟩) (now : Nat)
    (random : UInt8) (hp : w.session.point ≠ .polling) : Placed ⟨w.actSession now random, obeyed⟩ := by
  have place : w.session.point.Attends w.machine obeyed := h
  show (w.actSession now random).session.point.Attends (w.actSession now random).machine obeyed
  have render (next : Point) (hnext : next.Attends w.machine.snapshot.2 obeyed) :
      (w.render next).session.point.Attends (w.render next).machine obeyed := by
    unfold World.render
    dsimp only
    split
    · exact hnext
    · trivial
  unfold World.actSession
  split
  · next hq =>
    split
    · trivial
    · rw [hq]; trivial
    · trivial
  · split
    · trivial
    · split <;> trivial
  · exact render .polling trivial
  · exact render _ (Or.inl rfl)
  · next hq => exact absurd hq hp
  · next result purpose _ => cases purpose <;> cases result <;> trivial
  · next call purpose _ hq =>
    rw [hq] at place
    exact Progress.Attends.advance place now random
  · exact place

theorem Placed.act (h : Placed a) (t : World.Turn) : Placed (a.act t) := by
  obtain ⟨now, random, who⟩ := t
  obtain ⟨w, obeyed⟩ := a
  cases who with
  | activity actor =>
    -- activities neither begin a run nor end one, and a call's place asks for no more
    have same := w.machine.act_activities_eq_none now random actor
    show w.session.point.Attends (w.machine.act now random actor) obeyed
    have h : w.session.point.Attends w.machine obeyed := h
    unfold Point.Attends at *
    split at h
    · exact h.mono same
    · trivial
  | session =>
    by_cases hp : w.session.point = .polling
    · have polls : w.actSession now random = w.poll := by simp only [World.actSession, hp]
      show (w.actSession now random).session.point.Attends (w.actSession now random).machine _
      rw [polls]
      exact Placed.poll obeyed hp
    · have asked : obeys ⟨w, obeyed⟩ .session = none := obeys_none hp
      show Placed ⟨w.actSession now random, (obeys ⟨w, obeyed⟩ .session).or obeyed⟩
      rw [asked]
      exact h.session now random hp

theorem Placed.run (h : Placed a) (turns : List World.Turn) : Placed (a.run turns) := by
  induction turns generalizing a with
  | nil => exact h
  | cons t turns ih => exact ih (h.act t)

/-! ## What is left when the session ends -/

theorem point_of_ended {s : Session} (h : s.result?.isSome = true) :
    ∃ result, s.point = .ended result := by
  unfold Session.result? at h
  split at h
  · next result hp => exact ⟨result, hp⟩
  · cases h

/-- Nothing moves any more where the session has ended and the machine is stopped. -/
theorem run_of_ended {result : Except Error Unit} (ended : a.world.session.point = .ended result)
    (stopped : a.world.machine.activities = none) (turns : List World.Turn) :
    (a.run turns).world = a.world := by
  induction turns generalizing a with
  | nil => rfl
  | cons t turns ih =>
    obtain ⟨now, random, who⟩ := t
    have still : (a.act ⟨now, random, who⟩).world = a.world := by
      cases who with
      | session => simp only [act, World.act, World.actSession, ended]
      | activity actor => simp only [act, World.act, Machine.act, stopped]
    have rest := ih (a := a.act ⟨now, random, who⟩) (by rw [still]; exact ended)
      (by rw [still]; exact stopped)
    exact rest.trans still

/-- **The action that ends a session**: if it is an orderly exit there is no run, and otherwise the
activities are as they were. -/
theorem Placed.ending {w : World} {obeyed : Option Command} (h : Placed ⟨w, obeyed⟩) (now : Nat)
    (random : UInt8) (going : w.session.result? = none)
    (ended : (w.actSession now random).session.result?.isSome = true) :
    if (exit ⟨w, obeyed⟩).orderly then (w.actSession now random).machine.activities = none
    else (w.actSession now random).machine.activities = w.machine.activities := by
  have rendered (next : Point) : (w.render next).machine.activities = w.machine.activities := by
    unfold World.render
    dsimp only
    split <;> rfl
  -- the screen and the input can fail only where the loop renders and polls, and they do not touch
  -- the machine; a call ends the session by what it returned, and then the command that is being
  -- obeyed says whether the call was to stop the machine
  have place : w.session.point.Attends w.machine obeyed := h
  cases hp : w.session.point with
  | receiving fault =>
    simp only [World.actSession, hp] at ended
    split at ended
    · simp [Session.result?] at ended
    · simp [Session.result?] at ended
    · simp [Session.result?, World.withPoint] at ended
  | checking fault =>
    simp only [World.actSession, hp] at ended
    split at ended
    · simp [Session.result?, World.withPoint] at ended
    · split at ended <;> simp [Session.result?, World.withPoint] at ended
  | rendering | reporting =>
    simp only [exit, World.actSession, hp]
    exact rendered _
  | polling =>
    simp only [exit, World.actSession, hp]
    exact w.poll_activities
  | ended result => simp [Session.result?, hp] at going
  | calling call purpose =>
    rw [hp] at place
    cases call with
    | returned result =>
      have done (hs : (Progress.returned result).Stopping w.machine) :
          w.machine.activities = none := by
        rcases hs with hs | hs | ⟨-, hnone⟩
        · cases hs
        · cases hs
        · exact hnone
      simp only [exit, World.actSession, hp] at ended ⊢
      cases purpose with
      | quit | fault => exact done place
      | command | commandThenRender =>
        cases result with
        | ok _ => cases ended
        | error f =>
          -- a run that fails has found the machine halted, and collecting the halt has ended the
          -- activities; a step stops nothing, whatever it returns
          match obeyed, place with
          | some .run, place => exact place.2 f rfl
          | some .stop, place => exact done place
          | some .step, _ => trivial
    | _ => simp [Session.result?, World.actSession, hp] at ended

/-- **What a session leaves behind.** Let a session be held with any machine, running or not, and
let session and activities act in any order until an action of the session's ends it. If it is an
orderly exit, because the user quit, because a fault of the running machine was met, or because
running or stopping the machine failed, then the machine is neither running nor halted, and nothing
happens to it any more. If it is another one, because the input or the screen broke down or because
a step failed, then the activities are left as they were, and a machine that was running runs on. -/
theorem session_ending (m : Machine) (input : List Poll) (afterInput : Poll) (screen : Screen)
    (turns : List World.Turn) (t : World.Turn)
    (going : ((start m input afterInput screen).run turns).world.session.result? = none)
    (ended : (((start m input afterInput screen).run turns).act t).world.session.result?.isSome
      = true) :
    let before := (start m input afterInput screen).run turns
    let after := before.act t
    (before.exit.orderly = true →
        after.world.machine.isRunning = false ∧ after.world.machine.hasHalted = false
          ∧ ∀ later, (after.run later).world = after.world)
      ∧ (before.exit.orderly = false →
        after.world.machine.activities = before.world.machine.activities
          ∧ after.world.machine.isRunning = before.world.machine.isRunning) := by
  have placed : Placed ((start m input afterInput screen).run turns) :=
    Placed.run (a := start m input afterInput screen) trivial turns
  generalize (start m input afterInput screen).run turns = a at *
  obtain ⟨w, obeyed⟩ := a
  obtain ⟨now, random, who⟩ := t
  cases who with
  | activity actor =>
    -- no activity ends a session
    have same : w.session.result? = none := going
    have ended : w.session.result?.isSome = true := ended
    rw [same] at ended
    cases ended
  | session =>
    have ending := Placed.ending placed now random going ended
    intro before after
    refine ⟨fun orderly => ?_, fun abrupt => ?_⟩
    · rw [if_pos orderly] at ending
      obtain ⟨result, point⟩ := point_of_ended ended
      have stopped : after.world.machine.activities = none := ending
      exact ⟨by rw [Machine.isRunning, stopped], by rw [Machine.hasHalted, stopped],
        run_of_ended point stopped⟩
    · rw [if_neg (Bool.eq_false_iff.mp abrupt)] at ending
      have left : after.world.machine.activities = w.machine.activities := ending
      exact ⟨left, by rw [Machine.isRunning, Machine.isRunning, left]⟩

/-- A machine whose program counts. -/
def counting : Machine :=
  ((Machine.new {} .silent none).load ⟨[0x70, 0x01, 0x12, 0x00], none⟩).1

/-- The user has the machine run, and the loop comes to poll the input again. -/
def abandoned : List World.Turn := List.replicate 9 ⟨0, 0, .session⟩

def leave : World.Turn := ⟨0, 0, .session⟩

theorem session_ending_abandoned :
    let before := (start counting [.command .run] (.failure "gone") {}).run abandoned
    let after := before.act leave
    (before.world.session.result? = none ∧ after.world.session.result?.isSome = true)
      ∧ before.exit.orderly = false ∧ after.world.machine.isRunning = true := by
  have facts :
      let before := (start counting [.command .run] (.failure "gone") {}).run abandoned
      before.world.session.result?.isNone = true
        ∧ (before.act leave).world.session.result?.isSome = true
        ∧ before.exit.orderly = false ∧ before.world.machine.isRunning = true := by
    decide +kernel
  obtain ⟨going, ended, abrupt, running⟩ := facts
  have going := Option.isNone_iff_eq_none.mp going
  have ending := session_ending counting [.command .run] (.failure "gone") {} abandoned leave
    going ended
  generalize (start counting [.command .run] (.failure "gone") {}).run abandoned = before at *
  have left := (ending.2 abrupt).2
  exact ⟨⟨going, ended⟩, abrupt, left.trans running⟩

/-- The cpu executes an instruction that nobody waits for. -/
def unattended : List World.Turn := List.replicate 2 ⟨0, 0, .activity .cpu⟩

/-- **A machine can be left running**: the session has ended, and the machine counts. -/
theorem left_running :
    let after := ((start counting [.command .run] (.failure "gone") {}).run abandoned).act leave
    counting.activities = none ∧ after.world.session.result?.isSome = true
      ∧ after.world.machine.isRunning = true
      ∧ (after.run unattended).world.machine.state.registers.values
        ≠ after.world.machine.state.registers.values := by
  decide +kernel

end Attended

end Chip8
