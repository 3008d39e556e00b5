import Chip8.Machine.Progress
import Chip8.Screen.Dashboard

/-!
# Sessions

The interactive loop. Commands from an input drive a machine, and whenever an update says that
something changed, the screen shows a snapshot. A session ends when the user quits, which stops
the machine; when the running machine meets a fault, with that fault; or at once, when a step
faults or when the screen or the input fails.

One turn of the loop reads every waiting update, ends the session if one of them is a fault or if
the machine has come to a halt, renders if anything changed, and then polls the input for one
command. Each of these is an action of its own, and the activities of a running machine may act
between any two.
-/

set_option autoImplicit false

namespace Chip8

/-- What polling the input comes to. -/
inductive Poll where
  | command (command : Command)
  /-- nothing was typed for a while -/
  | nothing
  /-- a key without a meaning was typed -/
  | unbound (key : Key)
  /-- the input broke down -/
  | failure (reason : String)
  /-- nothing, after waiting until so many instructions were announced, or a fault -/
  | untilSteps (count : Nat)
  /-- nothing, after waiting until a key change was announced and then so many instructions, or a
  fault -/
  | untilKeysThenSteps (count : Nat)
  deriving DecidableEq

/-- What a call made by the session is for. -/
inductive Purpose where
  /-- a command after which the loop goes on -/
  | command
  /-- a command that also asks for a render -/
  | commandThenRender
  | quit
  /-- the end of a session that met a fault; what the update said, if it arrived -/
  | fault (message : Option String)

/-- Where the loop stands, by its next action. -/
inductive Point where
  /-- about to read an update; the last fault read in this turn -/
  | receiving (fault : Option String)
  /-- about to look whether the machine has come to a halt -/
  | checking (fault : Option String)
  | rendering
  /-- about to render a last time, since a fault was met -/
  | reporting (fault : Option String)
  | polling
  | calling (call : Progress) (purpose : Purpose)
  | ended (result : Except Error Unit)

/-- The loop with its input and its screen. -/
structure Session where
  point : Point
  /-- something changed since the last render -/
  dirty : Bool
  /-- what the next polls come to -/
  input : List Poll
  /-- what every poll comes to after them -/
  afterInput : Poll
  /-- how many entries of the input were used -/
  taken : Nat
  screen : Screen

/-- A machine and the session that drives it. -/
structure World where
  machine : Machine
  session : Session

/-- Who acts next. -/
inductive Participant where
  | session
  | activity (actor : Actor)
  deriving DecidableEq, Repr

namespace Session

/-- A session that has not begun yet. Its first turn renders. -/
def new (input : List Poll) (afterInput : Poll) (screen : Screen) : Session where
  point := .receiving none
  dirty := true
  input := input
  afterInput := afterInput
  taken := 0
  screen := screen

/-- The result, once the session has ended. -/
def result? (s : Session) : Option (Except Error Unit) :=
  match s.point with
  | .ended result => some result
  | _ => none

/-- Goes on with the next turn. -/
def turn (s : Session) : Session := { s with point := .receiving none }

def finish (s : Session) (result : Except Error Unit) : Session := { s with point := .ended result }

/-- Uses up one entry of the input, if there is one left. -/
def take (s : Session) : Session :=
  match s.input with
  | [] => s
  | _ :: rest => { s with input := rest, taken := s.taken + 1 }

/-- The entry the next poll comes to. -/
def next (s : Session) : Poll := s.input.headD s.afterInput

/-- Puts another entry in the place of the next one. -/
def replaceNext (s : Session) (p : Poll) : Session :=
  match s.input with
  | [] => { s with afterInput := p }
  | _ :: rest => { s with input := p :: rest }

end Session

namespace World

def withPoint (w : World) (p : Point) : World := { w with session := { w.session with point := p } }

/-- Takes a snapshot and shows it; `next` is where the loop goes if that worked. -/
def render (w : World) (next : Point) : World :=
  let (view, machine) := w.machine.snapshot
  let (screen, result) := w.session.screen.render view
  let session := { w.session with screen := screen }
  match result with
  | .ok () => ⟨machine, { session with point := next, dirty := false }⟩
  | .error e => ⟨machine, session.finish (.error e)⟩

/-- Does what a command asks for. -/
def obey (w : World) : Command → World
  | .key k => ⟨w.machine.sendKey (.press k), w.session.turn⟩
  | .run => w.withPoint (.calling .run .command)
  | .stop => w.withPoint (.calling .stop .commandThenRender)
  | .step => w.withPoint (.calling .step .command)
  | .scroll direction =>
    ⟨w.machine,
      { w.session.turn with screen := w.session.screen.scroll direction, dirty := true }⟩
  | .quit => w.withPoint (.calling .stop .quit)

/-- Polls the input. A poll that waits for something leaves the loop where it is. -/
def poll (w : World) : World :=
  let tally := w.machine.frontend.tally
  match w.session.next with
  | .command c => obey ⟨w.machine.log [.command c], w.session.take⟩ c
  | .nothing => ⟨w.machine, w.session.take.turn⟩
  | .unbound key => ⟨w.machine.log [.unboundKey key], w.session.take.turn⟩
  | .failure reason => ⟨w.machine, w.session.take.finish (.error (.io reason))⟩
  | .untilSteps count =>
    if count ≤ tally.registers ∨ tally.fault.isSome then ⟨w.machine, w.session.take.turn⟩ else w
  | .untilKeysThenSteps count =>
    if tally.fault.isSome then ⟨w.machine, w.session.take.turn⟩
    else if 0 < tally.keys then
      ⟨w.machine, w.session.replaceNext (.untilSteps (tally.registers + count))⟩
    else w

/-- What the session does with the result of a call. -/
def resume (s : Session) (result : Except StackFault Unit) : Purpose → Session
  | .command =>
    match result with
    | .ok () => s.turn
    | .error fault => s.finish (.error (.stack fault))
  | .commandThenRender =>
    match result with
    | .ok () => { s.turn with dirty := true }
    | .error fault => s.finish (.error (.stack fault))
  | .quit => s.finish (result.mapError .stack)
  | .fault message =>
    match result with
    | .ok () => s.finish (.error (.activity (message.getD "machine halted")))
    | .error fault => s.finish (.error (.stack fault))

/-- The session's next action. -/
def actSession (now : Nat) (random : UInt8) (w : World) : World :=
  match w.session.point with
  | .receiving fault =>
    match w.machine.frontend.receive with
    | some (.fault message, frontend) =>
      ⟨{ w.machine with frontend := frontend },
        { w.session with point := .receiving (some message) }⟩
    | some (_, frontend) =>
      ⟨{ w.machine with frontend := frontend }, { w.session with dirty := true }⟩
    | none => w.withPoint (.checking fault)
  | .checking fault =>
    if fault.isSome || w.machine.hasHalted then w.withPoint (.reporting fault)
    else if w.session.dirty then w.withPoint .rendering
    else w.withPoint .polling
  | .rendering => w.render .polling
  | .reporting fault => w.render (.calling .stop (.fault fault))
  | .polling => w.poll
  | .calling (.returned result) purpose => ⟨w.machine, resume w.session result purpose⟩
  | .calling call purpose =>
    let (machine, call) := w.machine.advance now random call
    ⟨machine, { w.session with point := .calling call purpose }⟩
  | .ended _ => w

/-- The next action of one participant, at a moment, with a random byte. -/
def act (now : Nat) (random : UInt8) (w : World) : Participant → World
  | .session => w.actSession now random
  | .activity actor => { w with machine := w.machine.act now random actor }

end World

end Chip8
