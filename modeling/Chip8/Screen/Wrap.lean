/-!
# Word wrapping

Rows of text broken into lines of a width, at blanks where there are any and at the last cell where
there are none. Blanks at the start of a line are dropped. A line is filled until it is one
character too long; then what follows the last word end goes to the next line.
-/

set_option autoImplicit false

namespace Chip8.Wrap

/-- A line being filled: its characters, and the length it had at the last word end, 0 if a word
has not ended in it yet. -/
structure Line where
  text : List Char
  wordEnd : Nat
  /-- the character before was blank -/
  afterBlank : Bool

/-- A line that begins with what the one before carried over. -/
def Line.begin (carried : List Char) : Line := ⟨carried, 0, false⟩

/-- Where a line that has become too long is cut. -/
def Line.cut (l : Line) : Nat := if l.wordEnd ≠ 0 then l.wordEnd else l.text.length - 1

/-- Fills one line from the characters that are left. Returns the line, what it carries over, and
the characters that are then left. -/
def fill (width : Nat) (l : Line) : List Char → List Char × List Char × List Char
  | [] => (l.text, [], [])
  | c :: rest =>
    if c = '\n' then
      (if l.afterBlank then l.text.take l.wordEnd else l.text, [], rest)
    else if c.isWhitespace && l.text.isEmpty then
      fill width l rest
    else
      let wordEnd := if c.isWhitespace && !l.afterBlank then l.text.length else l.wordEnd
      let longer : Line := ⟨l.text ++ [c], wordEnd, c.isWhitespace⟩
      if width < longer.text.length then
        (longer.text.take longer.cut, (longer.text.drop longer.cut).dropWhile Char.isWhitespace,
          rest)
      else
        fill width longer rest

/-- The lines of some characters after a carried-over text, at most `limit` of them. -/
def linesFrom (width : Nat) : Nat → List Char → List Char → List (List Char)
  | 0, _, _ => []
  | limit + 1, carried, text =>
    if text.isEmpty && carried.isEmpty then []
    else
      let (line, carried, rest) := fill width (Line.begin carried) text
      line :: linesFrom width limit carried rest

/-- The first `limit` lines of some rows, each of which starts a new line. -/
def lines (width limit : Nat) (rows : List String) : List (List Char) :=
  if width = 0 then []
  else linesFrom width limit [] (rows.flatMap fun row => row.toList ++ ['\n'])

end Chip8.Wrap
