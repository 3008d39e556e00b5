import Chip8.Command

/-!
# Texts for the command line

What the program prints about itself.
-/

set_option autoImplicit false

namespace Chip8.CommandLine

def versionText : String := "chip8-tui 0.1.0\n"

def helpText : String :=
  "Run a CHIP-8 program in the terminal, with a view of the machine's insides\n" ++
  "\n" ++
  "Usage: chip8-tui [OPTIONS] [ROM]\n" ++
  "\n" ++
  "Arguments:\n" ++
  "  [ROM]  CHIP-8 program to load\n" ++
  "\n" ++
  "Options:\n" ++
  "      --clock-hz <CLOCK_HZ>\n" ++
  "          Instructions per second [default: 700]\n" ++
  "      --timer-hz <TIMER_HZ>\n" ++
  "          Delay and sound timer rate [default: 60]\n" ++
  "      --key-release-ms <KEY_RELEASE_MS>\n" ++
  "          Release keys this long after the last key press; 0 keeps them down [default: 100]\n" ++
  "      --quirk-index-increment\n" ++
  "          FX55 and FX65 leave I pointing past the last register\n" ++
  "      --log-file <LOG_FILE>\n" ++
  "          Write logs here instead of stderr\n" ++
  "  -h, --help\n" ++
  "          Print help\n" ++
  "  -V, --version\n" ++
  "          Print version\n"

/-- One line of the table of controls: a key, filled up to eight places, and what it does. -/
def controlLine (key text : String) : String :=
  "  " ++ String.ofList (key.toList.rightpad 8 ' ') ++ " " ++ text ++ "\n"

/-- The table of controls. -/
def controlsText : String :=
  "\nControls:\n" ++ controlLine "0-9 a-f" "press a keypad key" ++
    String.join (Keymap.controls.map fun (key, _, text) => controlLine key.toString text) ++
    controlLine "Esc" "quit"

/-- What is printed when no program to load is named. -/
def usageText : String := helpText ++ controlsText

end Chip8.CommandLine
