import Chip8.CommandLine.Program
import Chip8.Terminal.Painting

/-!
# The command line

All that touches the outside world: it reads the program, writes the log, shows the screen and
hands over what is typed; what any of it means is decided by `Program`. The terminal is read line
by line, so keys take effect at the end of the line, and the end of the line itself is no key.
-/

set_option autoImplicit false

namespace Chip8.Program

open CommandLine

/-- A failure of the operating system as a failing program reports it. -/
def systemReport : IO.Error → String
  | .noFileOrDirectory .. => FileError.notFound.report
  | .inappropriateType .. => s!"Io({FileError.isDirectory.report})"
  | e => Quoted.string (toString e)

/-- Starts with arguments that could be read, on the files of the system. -/
def startHere (a : Arguments) : IO Start :=
  match a.rom with
  | none => return .printed usageText
  | some path =>
    try
      if let some log := a.logFile then IO.FS.writeFile log ""
      let content ← IO.FS.readBinFile path
      let target := match a.logFile with
        | some log => .file log
        | none => .errorStream
      return loadContent content.toList path target (machineFor .warn a)
    catch e => return .failed (systemReport e)

/-- Shows the screen and follows what is typed, line after line, until the session has ended or
nothing more can be typed. -/
partial def follow (input output : IO.FS.Stream) (last : Nat) (p : Play) : IO Play := do
  output.putStr (Terminal.paint p.drawn)
  output.flush
  if p.world.hasEnded then return p
  let line ← input.getLine
  if line.isEmpty then return p
  let now ← IO.monoMsNow
  let keys := line.toList.filter fun c => c ≠ '\n'
  follow input output now ((p.follow (.pause (now - last))).follow (.text keys))

/-- Holds a session and ends the program. -/
def hold (program : Ready) : IO UInt32 := do
  let p ← follow (← IO.getStdin) (← IO.getStdout) (← IO.monoMsNow)
    ((Play.begin program ⟨80, 24⟩).settle Play.pauseRounds)
  let outcome := finish ⟨[]⟩ program.logTarget p.now p.world
  for (name, content) in outcome.folder.files do
    IO.FS.writeBinFile name (ByteArray.mk content.toArray)
  for line in outcome.stderr do
    IO.eprintln line
  return UInt32.ofNat outcome.exitCode

end Chip8.Program

open Chip8 in
/-- Runs the program. -/
def main (arguments : List String) : IO UInt32 := do
  match CommandLine.parse arguments with
  | .error _ =>
    IO.eprint CommandLine.helpText
    return 2
  | .ok .help =>
    IO.print CommandLine.helpText
    return 0
  | .ok .version =>
    IO.print CommandLine.versionText
    return 0
  | .ok (.start a) =>
    match ← Program.startHere a with
    | .printed text =>
      IO.print text
      return 0
    | .misused _ => return 2
    | .failed report =>
      IO.eprintln (Program.failureLine report)
      return 1
    | .ready program => Program.hold program
