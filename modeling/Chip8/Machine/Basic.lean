import Chip8.Config
import Chip8.Journal
import Chip8.Snapshot
import Chip8.Machine.Activities

/-!
# The machine

An interpreter together with what surrounds it: a queue of key events, the frontend that hears of
changes, the activities while it runs, and the journal. This module has the actions that happen
all at once. Calls and activities are sequences of them, and whatever is true of every sequence
of these actions is true however calls and activities interleave.
-/

set_option autoImplicit false

namespace Chip8

namespace Keypad

/-- Applies events in order, then releases every key if the last event is too long ago. Says
whether a key changed on the way. -/
def refresh (window : Option Nat) (now : Nat) (events : List KeyEvent) (k : Keypad) :
    Keypad × Bool :=
  let applied := events.foldl
    (fun (k, changed) e =>
      let (k, c) := k.apply e now
      (k, changed || c))
    (k, false)
  match window with
  | none => applied
  | some window =>
    let (k, released) := applied.1.expire window now
    (k, applied.2 || released)

/-- Whether a refresh ends by releasing a key. -/
def refreshReleases (window : Option Nat) (now : Nat) (events : List KeyEvent) (k : Keypad) :
    Option Nat :=
  match window with
  | none => none
  | some window =>
    if ((k.refresh none now events).1.expire window now).2 then some window else none

end Keypad

namespace Update

/-- What a load announces. -/
def ofLoad : Except Error Nat → List Update
  | .ok _ => [.display, .registers]
  | .error _ => []

/-- What an instruction announces. -/
def ofStep : Except StackFault Executed → List Update
  | .ok done => (if done.redraw then [.display] else []) ++ [.registers]
  | .error _ => []

end Update

namespace Entry

/-- What a refresh of the keypad leaves in the journal. -/
def ofRefresh (events : List KeyEvent) (released : Option Nat) : List Entry :=
  events.flatMap ofKeyEvent ++
    match released with
    | none => []
    | some window => [keysReleased window]

end Entry

structure Machine where
  config : Config
  interpreter : Interpreter
  /-- key events that were sent and not yet taken, oldest first -/
  queue : List KeyEvent
  frontend : Frontend
  /-- present from the start of a run until it was stopped -/
  activities : Option Activities
  journal : Journal
  deriving DecidableEq

namespace Machine

/-- A stopped machine with nothing loaded. -/
def new (config : Config) (frontend : Frontend) (threshold : Option Level) : Machine where
  config := config
  interpreter := Interpreter.new config.advancesIndex
  queue := []
  frontend := frontend
  activities := none
  journal := Journal.ofThreshold threshold

def state (m : Machine) : State := m.interpreter.state

def withState (m : Machine) (s : State) : Machine :=
  { m with interpreter := { m.interpreter with state := s } }

def log (m : Machine) (entries : List Entry) : Machine :=
  { m with journal := m.journal.addAll entries }

/-- Sends an update to the frontend. -/
def notify (m : Machine) (u : Update) : Machine :=
  if m.frontend.drops then { m with frontend := m.frontend.send u }.log [.updateDropped u]
  else { m with frontend := m.frontend.send u }

def notifyAll (m : Machine) (updates : List Update) : Machine := updates.foldl notify m

/-- In a run that has not been halted. -/
def isRunning (m : Machine) : Bool :=
  match m.activities with
  | none => false
  | some a => !a.halt

/-- In a run that came to a halt by itself and has not been stopped. -/
def hasHalted (m : Machine) : Bool :=
  match m.activities with
  | none => false
  | some a => a.halt

/-- Queues a key event. -/
def sendKey (m : Machine) (e : KeyEvent) : Machine := { m with queue := m.queue ++ [e] }

/-- Takes everything from the queue. -/
def takeKeys (m : Machine) : List KeyEvent × Machine := (m.queue, { m with queue := [] })

/-- Applies key events that were taken from the queue; says whether a key changed. -/
def refreshKeys (now : Nat) (events : List KeyEvent) (m : Machine) : Machine × Bool :=
  let released := m.state.keypad.refreshReleases m.config.keyRelease now events
  let (keypad, changed) := m.state.keypad.refresh m.config.keyRelease now events
  ((m.withState { m.state with keypad := keypad }).log (Entry.ofRefresh events released), changed)

/-- Executes one instruction. -/
def execute (random : UInt8) (m : Machine) : Machine × Except StackFault Executed :=
  let (interpreter, result) := m.interpreter.step random
  let instruction : Listing := ⟨m.state.pc, m.state.fetch⟩
  ({ m with interpreter := interpreter }.log (Entry.ofStep instruction result), result)

/-- Counts both timers down. -/
def tickTimers (m : Machine) : Machine := m.withState m.state.tickTimers

/-- Loads a program, without telling the frontend. -/
def replaceProgram (source : Source) (m : Machine) : Machine × Except Error Nat :=
  let (interpreter, result) := m.interpreter.load source
  ({ m with interpreter := interpreter }.log (Entry.ofLoad result), result)

/-- Takes a snapshot. -/
def snapshot (m : Machine) : Snapshot × Machine :=
  let (view, s) := m.state.snapshot
  (view, m.withState s)

/-- Begins a run. -/
def spawn (m : Machine) : Machine :=
  { m with activities := some Activities.started }.log
    [.running m.config.clockHz m.config.timerHz]

/-- Raises the halt flag of the run. -/
def raiseHalt (m : Machine) : Machine :=
  { m with activities := m.activities.map fun a => { a with halt := true } }

/-- Gives up a run whose activities are done: the machine is stopped. Returns the fault that ended
the run, if one did. -/
def reap (m : Machine) : Machine × Except StackFault Unit :=
  ({ m with activities := none },
    match m.activities.bind Activities.fault with
    | some fault => .error fault
    | none => .ok ())

end Machine

end Chip8
