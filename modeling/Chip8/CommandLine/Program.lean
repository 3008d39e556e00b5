import Chip8.CommandLine.Arguments
import Chip8.CommandLine.Usage
import Chip8.CommandLine.Folder
import Chip8.Terminal.Keyboard
import Chip8.Terminal.Display
import Chip8.Session.Schedule
import Chip8.Machine.Calls

/-!
# The whole program

From the command line to the exit code. `start` does everything up to the point where the program
takes over the terminal: it may end there with a text or an error, or go on with a loaded machine.
`Play` is a session at a terminal, driven by what is typed, and `finish` is what is left to do once
the session has ended.
-/

set_option autoImplicit false

namespace Chip8

namespace Error

/-- The error as a failing program reports it. -/
def report : Error → String
  | io reason => s!"Io({Quoted.string reason})"
  | romTooLarge size room => s!"RomTooLarge \x7b size: {size}, max_size: {room} \x7d"
  | outOfRange address length => s!"OutOfRange \x7b address: {address}, length: {length} \x7d"
  | stack (.overflow pc) => s!"StackOverflow \x7b pc: {pc.toNat} \x7d"
  | stack (.underflow pc) => s!"StackUnderflow \x7b pc: {pc.toNat} \x7d"
  | poisoned reason => s!"Poisoned({Quoted.string reason})"
  | activitySpawn name reason =>
    s!"ActivitySpawn \x7b name: {Quoted.string name}, source: {Quoted.string reason} \x7d"
  | activity reason => s!"Activity({Quoted.string reason})"

end Error

namespace Program

open CommandLine

/-- How many updates may wait for the session. -/
def updateCapacity : Nat := 64

/-- Where the log goes. -/
inductive LogTarget where
  /-- the standard error stream -/
  | errorStream
  /-- a file of the folder -/
  | file (name : String)
  /-- a file that is none of the folder -/
  | elsewhere
  deriving DecidableEq, Repr

/-- A program that is about to take over the terminal. -/
structure Ready where
  machine : Machine
  /-- the name of the file that was loaded -/
  title : String
  logTarget : LogTarget

/-- How starting the program comes out. -/
inductive Start where
  /-- there is only a text to print -/
  | printed (text : String)
  | misused (error : UsageError)
  /-- it fails, with a report -/
  | failed (report : String)
  | ready (program : Ready)

/-- The last line of a program that fails. -/
def failureLine (report : String) : String := "Error: " ++ report

/-- The machine that the arguments ask for, with nothing loaded. -/
def machineFor (threshold : Level) (a : Arguments) : Machine :=
  Machine.new a.config (Frontend.ofCapacity updateCapacity) (some threshold)

/-- Loads what the file at a path holds into a machine. -/
def loadContent (content : List UInt8) (path : String) (logTarget : LogTarget) (m : Machine) :
    Start :=
  match m.load ⟨content, none⟩ with
  | (_, .error e) => .failed e.report
  | (m, .ok _) => .ready ⟨m, Folder.fileName path, logTarget⟩

/-- Loads the program at a path into a machine. -/
def loadFile (folder : Folder) (path : String) (logTarget : LogTarget) (m : Machine) : Start :=
  match folder.place path with
  | .error e => .failed e.report
  | .ok (.vacant ..) => .failed FileError.notFound.report
  | .ok (.directory _) => .failed s!"Io({FileError.isDirectory.report})"
  | .ok (.file _ content) => loadContent content path logTarget m
  | .ok .sink => loadContent [] path logTarget m

/-- Starts with arguments that could be read. The log file is created first, so a program that is
its own log file is empty when it is loaded. -/
def startWith (folder : Folder) (threshold : Level) (a : Arguments) : Folder × Start :=
  match a.rom with
  | none => (folder, .printed usageText)
  | some rom =>
    match a.logFile with
    | none => (folder, loadFile folder rom .errorStream (machineFor threshold a))
    | some path =>
      match folder.create path with
      | .error e => (folder, .failed e.report)
      | .ok (created, folder) =>
        let target := match created with
          | some name => .file name
          | none => .elsewhere
        (folder, loadFile folder rom target (machineFor threshold a))

/-- Starts the program in a folder. -/
def start (folder : Folder) (threshold : Level) (arguments : List String) : Folder × Start :=
  match parse arguments with
  | .error e => (folder, .misused e)
  | .ok .help => (folder, .printed helpText)
  | .ok .version => (folder, .printed versionText)
  | .ok (.start a) => startWith folder threshold a

/-- What the user of a terminal does next. -/
inductive Typed where
  | text (characters : List Char)
  /-- do nothing for so many milliseconds -/
  | pause (ms : Nat)
  /-- wait until a row of the screen holds a text -/
  | waitFor (text : String)
  deriving DecidableEq, Repr

/-- A terminal: its size. -/
structure Terminal where
  columns : Nat
  rows : Nat
  deriving DecidableEq, Repr

/-- A session at a terminal. -/
structure Play where
  world : World
  title : String
  terminal : Terminal
  /-- milliseconds since the beginning -/
  now : Nat
  /-- the number of the activities' next round -/
  round : Nat
  /-- the beginning of an escape sequence -/
  pending : List Char

namespace Play

/-- How many rounds it may take to obey what was typed. -/
def patience : Nat := 40000

/-- How many rounds a pause may take, at the beginning and at the end of it. -/
def pauseRounds : Nat := 4096

/-- How many rounds it takes at least until everything that happened is shown. -/
def settlingRounds : Nat := 4

/-- How often one looks whether a wait is over before it is given up. -/
def looks : Nat := 11

/-- How many rounds pass between the first two looks. -/
def firstWait : Nat := 32

/-- A session that has just begun. -/
def begin (program : Ready) (terminal : Terminal) : Play where
  world := ⟨program.machine, Session.new [] .nothing {}⟩
  title := program.title
  terminal := terminal
  now := 0
  round := 0
  pending := []

/-- Rounds until `done` or the end of the session. -/
def runUntil (p : Play) (limit : Nat) (done : World → Bool) : Play :=
  let (round, world) := World.runUntil p.now done limit p.round p.world
  { p with round := round, world := world }

/-- Whether everything typed was obeyed and shown. -/
def isQuiet (w : World) : Bool :=
  w.session.input.isEmpty && !w.session.dirty && w.machine.frontend.waiting.isEmpty &&
    match w.session.point with
    | .receiving _ | .checking _ | .polling => true
    | _ => false

/-- Whether nothing is left to do until something is typed. -/
def isSettled (w : World) : Bool :=
  if w.machine.activities.isNone then isQuiet w
  else w.session.input.isEmpty && w.machine.isIdle

/-- Rounds until the session is settled, and everything is shown. -/
def settle (p : Play) (limit : Nat) : Play :=
  let never (_ : World) : Bool := false
  ((p.runUntil settlingRounds never).runUntil limit isSettled).runUntil settlingRounds never

/-- What is drawn on the terminal. -/
def drawn (p : Play) : Grid :=
  match p.world.session.screen.shown with
  | [] => Grid.blank p.terminal.columns p.terminal.rows
  | view :: _ => view.draw p.terminal.columns p.terminal.rows p.title

/-- What the terminal shows. -/
def screen (p : Play) : Grid := Terminal.shown p.drawn

/-- Rounds until `done` or the end of the session. One looks after `wait` rounds, then after twice
as many, and so on, but at the latest when the session is settled. A millisecond passes with each
round, so that keys that are not held come up in the end. -/
def waitUntil (done : Play → Bool) : Nat → Nat → Play → Play
  | 0, _, p => p
  | limit + 1, wait, p =>
    if p.world.hasEnded || done p then p
    else
      let p := p.settle wait
      waitUntil done limit (2 * wait) { p with now := p.now + wait }

/-- What a key amounts to as input. -/
def pollOf (key : Key) : Poll :=
  match Keymap.commandFor key with
  | some command => .command command
  | none => .unbound key

/-- Does what the user does. -/
def follow (p : Play) : Typed → Play
  | .text characters =>
    let (keys, pending) := Chip8.Terminal.keys p.pending characters
    let session := p.world.session
    let session := { session with input := session.input ++ keys.map pollOf }
    { p with pending := pending, world := { p.world with session := session } }.runUntil patience
      fun w => w.session.input.isEmpty && (isQuiet w || w.machine.isRunning)
  | .pause ms =>
    let p := p.settle pauseRounds
    { p with now := p.now + ms }.settle pauseRounds
  | .waitFor text => p.waitUntil (fun p => p.screen.contains text) looks firstWait

/-- The whole session. When nothing more is typed it goes on until it ends by itself. -/
def through (p : Play) (typed : List Typed) : Play :=
  (typed.foldl follow p).waitUntil (fun _ => false) looks firstWait

end Play

/-- What is left of a program that has ended. -/
structure Outcome where
  exitCode : Nat
  /-- the lines on the standard error stream -/
  stderr : List String
  folder : Folder

/-- Ends the program after its session. A machine that is still running is stopped; a fault that
this brings up is only worth a warning. -/
def finish (folder : Folder) (logTarget : LogTarget) (now : Nat) (w : World) : Outcome :=
  let result := w.session.result?.getD (.ok ())
  let failure := match result with
    | .ok () => []
    | .error e => [Entry.failed e]
  let machine := match (w.machine.log failure).stop now with
    | (m, .ok ()) => m
    | (m, .error fault) => m.log [.droppedRunning fault]
  let lines := machine.journal.lines
  let last := match result with
    | .ok () => []
    | .error e => [failureLine e.report]
  let exitCode := match result with
    | .ok () => 0
    | .error _ => 1
  match logTarget with
  | .errorStream => ⟨exitCode, lines ++ last, folder⟩
  | .elsewhere => ⟨exitCode, last, folder⟩
  | .file name =>
    let text := String.join (lines.map (· ++ "\n"))
    ⟨exitCode, last, folder.write name text.toUTF8.toList⟩

end Program

end Chip8
