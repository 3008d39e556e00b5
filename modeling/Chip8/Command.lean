import Chip8.Text.Hex
import Chip8.Text.Quoted

/-!
# Commands and the keys that give them

What a user can ask for, and the keyboard key for each. The sixteen keypad keys are the
hexadecimal digits in either case; the controls are letters that are no digit, so none hides
another.
-/

set_option autoImplicit false

namespace Chip8

/-- A movement in the memory listing. -/
inductive Scroll where
  | down | up | top | bottom
  deriving DecidableEq, Repr

namespace Scroll

def name : Scroll → String
  | down => "Down"
  | up => "Up"
  | top => "Top"
  | bottom => "Bottom"

end Scroll

/-- Something the user asked for. -/
inductive Command where
  /-- press a keypad key -/
  | key (key : UInt8)
  | run
  | stop
  | step
  | scroll (direction : Scroll)
  | quit
  deriving DecidableEq, Repr

namespace Command

/-- The command's name in log lines. -/
def name : Command → String
  | key k => s!"Key({k.toNat})"
  | run => "Run"
  | stop => "Stop"
  | step => "Step"
  | scroll direction => "Scroll" ++ direction.name
  | quit => "Quit"

end Command

/-- A key of the keyboard. Modifier keys play no part. -/
inductive Key where
  | char (c : Char)
  | up | down | left | right
  | escape | tab | backTab | enter | home | finish | pageUp | pageDown | backspace | insert | delete
  | null
  /-- a function key -/
  | function (number : Nat)
  deriving DecidableEq, Repr

namespace Key

/-- The key's name in log lines. -/
def name : Key → String
  | char c => s!"Char({Quoted.char c})"
  | up => "Up"
  | down => "Down"
  | left => "Left"
  | right => "Right"
  | escape => "Esc"
  | tab => "Tab"
  | backTab => "BackTab"
  | enter => "Enter"
  | home => "Home"
  | finish => "End"
  | pageUp => "PageUp"
  | pageDown => "PageDown"
  | backspace => "Backspace"
  | insert => "Insert"
  | delete => "Delete"
  | null => "Null"
  | function number => s!"F({number})"

end Key

namespace Keymap

/-- The letters that control the machine and the memory listing, with their usage text. -/
def controls : List (Char × Command × String) :=
  [ ('r', .run, "run program"),
    ('R', .stop, "stop program"),
    ('s', .step, "1 cycle"),
    ('j', .scroll .down, "Mem map down"),
    ('k', .scroll .up, "Mem map up"),
    ('g', .scroll .top, "Mem map top"),
    ('G', .scroll .bottom, "Mem map bottom"),
    ('q', .quit, "quit") ]

/-- What a typed character asks for. -/
def ofChar (c : Char) : Option Command :=
  match controls.find? fun entry => entry.1 == c with
  | some (_, command, _) => some command
  | none => (Hex.value? c).map fun digit => .key (UInt8.ofNat digit)

/-- What a key asks for: characters as above, the arrows scroll and escape quits. -/
def commandFor : Key → Option Command
  | .char c => ofChar c
  | .down => some (.scroll .down)
  | .up => some (.scroll .up)
  | .escape => some .quit
  | _ => none

end Keymap

end Chip8
