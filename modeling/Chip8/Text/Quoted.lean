import Chip8.Text.Hex
import Chip8.Text.Printable
import Chip8.Text.Attached

/-!
# Characters in quotes

A character as it appears between quotes in a log line: itself if a reader can see it there, a
backslash form for the quotes, the backslash and the common control characters, and its number in
braces otherwise. A mark is shown by number, because it would be drawn over the quote.
-/

set_option autoImplicit false

namespace Chip8.Quoted

/-- The two marks of Japanese syllables that are as wide as a syllable, and stand beside it. -/
def isSoundMark (c : Char) : Bool := c = '\uFF9E' || c = '\uFF9F'

/-- Whether a character can be seen on its own. -/
def isPrintable (c : Char) : Bool :=
  !(CharClass.unprintable.has c || CharClass.ignorable.has c ||
    (CharClass.extending.has c && !isSoundMark c))

/-- A character's number in braces, in lower-case hexadecimal. -/
private def numbered (c : Char) : List Char :=
  "\\u\x7b".toList ++ (Hex.digits c.toNat).map Char.toLower ++ "\x7d".toList

/-- One character, where `quote` is the kind of quote around it. -/
def escape (quote c : Char) : List Char :=
  match c with
  | '\t' => ['\\', 't']
  | '\n' => ['\\', 'n']
  | '\r' => ['\\', 'r']
  | '\x00' => ['\\', '0']
  | '\\' => ['\\', '\\']
  | c => if c = quote then ['\\', c] else if isPrintable c then [c] else numbered c

/-- A character in single quotes. -/
def char (c : Char) : String := String.ofList ('\'' :: escape '\'' c ++ ['\''])

/-- A text in double quotes. -/
def string (s : String) : String := String.ofList ('"' :: s.toList.flatMap (escape '"') ++ ['"'])

end Chip8.Quoted
