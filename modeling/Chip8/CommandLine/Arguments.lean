import Chip8.Config

/-!
# Command-line arguments

The options `--clock-hz`, `--timer-hz`, `--key-release-ms` and `--log-file` take a value, after an
equals sign or as the next argument; `--quirk-index-increment` takes none; `-h`, `--help`, `-V` and
`--version` ask for a text instead of a run; any other argument is the program to load, and there
can be one. After `--` every argument is.

An option whose value comes as the next argument, and the program, are held back when they are
read, and settled only by the next option or program that is accepted, or at the end. An argument
that is not accepted at all is therefore reported before anything that is wrong with what is held
back, and in any other case the earlier argument is.
-/

set_option autoImplicit false

namespace Chip8.CommandLine

/-- What can be wrong with the arguments. -/
inductive UsageError where
  /-- an option that does not exist, or a second program -/
  | unknownArgument
  /-- a value that is missing or empty -/
  | invalidValue
  /-- a value that is no number in range -/
  | valueValidation
  /-- a value for an option that takes none -/
  | tooManyValues
  /-- an option that was given before -/
  | argumentConflict
  deriving DecidableEq, Repr

/-- The options that take a value. -/
inductive Parameter where
  | clockHz | timerHz | keyReleaseMs | logFile
  deriving DecidableEq, Repr

/-- The options that take none. -/
inductive Switch where
  | indexIncrement | help | version
  deriving DecidableEq, Repr

/-- An option by its long name. -/
def option? (name : String) : Option (Parameter ⊕ Switch) :=
  match name with
  | "clock-hz" => some (.inl .clockHz)
  | "timer-hz" => some (.inl .timerHz)
  | "key-release-ms" => some (.inl .keyReleaseMs)
  | "log-file" => some (.inl .logFile)
  | "quirk-index-increment" => some (.inr .indexIncrement)
  | "help" => some (.inr .help)
  | "version" => some (.inr .version)
  | _ => none

/-- What the arguments say. -/
structure Arguments where
  clockHz : Option Nat := none
  timerHz : Option Nat := none
  keyReleaseMs : Option Nat := none
  logFile : Option String := none
  indexIncrement : Bool := false
  rom : Option String := none
  deriving DecidableEq, Repr

/-- What the arguments ask for. -/
inductive Request where
  | start (arguments : Arguments)
  | help
  | version
  deriving DecidableEq, Repr

namespace Arguments

/-- How long after the last key event all keys are released, unless told otherwise. -/
def defaultKeyReleaseMs : Nat := 100

/-- The configuration the arguments describe. A key release of 0 means never. -/
def config (a : Arguments) : Config :=
  let defaults : Config := {}
  { clockHz := a.clockHz.getD defaults.clockHz
    timerHz := a.timerHz.getD defaults.timerHz
    keyRelease := match a.keyReleaseMs.getD defaultKeyReleaseMs with
      | 0 => none
      | ms => some ms
    advancesIndex := a.indexIncrement }

end Arguments

/-- The number some decimal digits stand for; there has to be one at least. -/
def digits? (cs : List Char) : Option Nat :=
  if cs.isEmpty || !cs.all Char.isDigit then none
  else some (cs.foldl (fun n c => n * 10 + (c.toNat - 48)) 0)

/-- A number below `bound`. A plus sign may stand in front; a minus sign may too, where `negative`
allows one, but then the number has to be 0. -/
def number? (negative : Bool) (bound : Nat) (text : String) : Option Nat :=
  let value := match text.toList with
    | '+' :: digits => digits? digits
    | '-' :: digits => if negative then (digits? digits).filter (· = 0) else none
    | digits => digits? digits
  value.filter (· < bound)

/-- What was read but not settled yet. -/
inductive Held where
  | option (parameter : Parameter) (value : Option String)
  | rom (path : String)
  deriving DecidableEq, Repr

/-- The arguments so far. -/
structure Reading where
  settled : Arguments := {}
  held : Option Held := none
  deriving DecidableEq, Repr

namespace Reading

/-- Settles an option. A missing value is noticed first, then an option given twice, and then a
value that is wrong. -/
def settleOption (a : Arguments) (p : Parameter) (value : Option String) :
    Except UsageError Arguments :=
  match value with
  | none => .error .invalidValue
  | some value =>
    match p with
    | .clockHz =>
      if a.clockHz.isSome then .error .argumentConflict
      else match number? true (Nat.pow 2 32) value with
        | none => .error .valueValidation
        | some n => .ok { a with clockHz := some n }
    | .timerHz =>
      if a.timerHz.isSome then .error .argumentConflict
      else match number? true (Nat.pow 2 32) value with
        | none => .error .valueValidation
        | some n => .ok { a with timerHz := some n }
    | .keyReleaseMs =>
      if a.keyReleaseMs.isSome then .error .argumentConflict
      else match number? false (Nat.pow 2 64) value with
        | none => .error .valueValidation
        | some n => .ok { a with keyReleaseMs := some n }
    | .logFile =>
      if a.logFile.isSome then .error .argumentConflict
      else if value.isEmpty then .error .invalidValue
      else .ok { a with logFile := some value }

/-- Settles what is held back. -/
def settle (r : Reading) : Except UsageError Arguments :=
  match r.held with
  | none => .ok r.settled
  | some (.option p value) => settleOption r.settled p value
  | some (.rom path) =>
    if path.isEmpty then .error .invalidValue else .ok { r.settled with rom := some path }

/-- Whether an option waits for its value. -/
def awaitsValue (r : Reading) : Bool :=
  match r.held with
  | some (.option _ none) => true
  | _ => false

/-- Gives the option that waits its value. -/
def supply (r : Reading) (value : String) : Reading :=
  match r.held with
  | some (.option p none) => { r with held := some (.option p (some value)) }
  | _ => r

/-- Whether a program was named already. -/
def hasRom (r : Reading) : Bool :=
  match r.held with
  | some (.rom _) => true
  | _ => r.settled.rom.isSome

/-- Reads an argument as the program to load. -/
def addRom (r : Reading) (path : String) : Except UsageError Reading :=
  if r.hasRom then .error .unknownArgument
  else do
    let settled ← r.settle
    return ⟨settled, some (.rom path)⟩

/-- Reads an option that takes no value. -/
def addSwitch (r : Reading) (s : Switch) : Except UsageError (Request ⊕ Reading) := do
  let settled ← r.settle
  match s with
  | .help => return .inl .help
  | .version => return .inl .version
  | .indexIncrement =>
    if settled.indexIncrement then .error .argumentConflict
    else return .inr ⟨{ settled with indexIncrement := true }, none⟩

/-- Reads a long option: its name, and its value if an equals sign came after the name. -/
def addLong (r : Reading) (name : String) (value : Option String) :
    Except UsageError (Request ⊕ Reading) :=
  match option? name with
  | none => .error .unknownArgument
  | some (.inr s) => if value.isSome then .error .tooManyValues else r.addSwitch s
  | some (.inl p) => do
    let settled ← r.settle
    match value with
    | none => return .inr ⟨settled, some (.option p none)⟩
    | some value => return .inr ⟨← settleOption settled p (some value), none⟩

/-- Reads a short option by its first letter. Both that exist end the reading. -/
def addShort (r : Reading) (letter : Char) : Except UsageError (Request ⊕ Reading) :=
  match letter with
  | 'h' => r.addSwitch .help
  | 'V' => r.addSwitch .version
  | _ => .error .unknownArgument

end Reading

/-- A long option split at its first equals sign. -/
def splitValue (text : List Char) : String × Option String :=
  let name := text.takeWhile (· ≠ '=')
  match text.dropWhile (· ≠ '=') with
  | [] => (String.ofList name, none)
  | _ :: value => (String.ofList name, some (String.ofList value))

/-- Reads arguments of which each is the program to load. -/
def readRoms (r : Reading) : List String → Except UsageError Request
  | [] => do return .start (← r.settle)
  | path :: rest => do readRoms (← r.addRom path) rest

/-- Reads the arguments that are left. -/
def readFrom (r : Reading) : List String → Except UsageError Request
  | [] => do return .start (← r.settle)
  | argument :: rest => do
    let next ← match argument.toList with
      | ['-', '-'] => return ← readRoms r rest
      | '-' :: '-' :: text =>
        let (name, value) := splitValue text
        r.addLong name value
      | '-' :: letter :: _ => r.addShort letter
      | _ =>
        if r.awaitsValue then .ok (.inr (r.supply argument)) else (r.addRom argument).map .inr
    match next with
    | .inl request => return request
    | .inr r => readFrom r rest

/-- Reads a command line, without the name of the program. -/
def parse (arguments : List String) : Except UsageError Request := readFrom {} arguments

end Chip8.CommandLine
