import Chip8.Command

/-!
# Keys from a terminal

A terminal in raw mode sends characters, and escape sequences for the keys that are no
characters. `read` takes what has arrived since the last complete key and says what it is: a key,
something that is to be ignored, or the beginning of a sequence. Escape on its own is a key only
if nothing follows it at once. Control characters stand for the letter or digit they are typed
with, and a character after an escape is that character typed with a modifier.
-/

set_option autoImplicit false

namespace Chip8.Terminal

/-- What the characters received so far amount to. -/
inductive Reading where
  | key (key : Key)
  /-- a report that is no key, or a sequence that means nothing -/
  | ignored
  /-- more characters have to come -/
  | unfinished
  deriving DecidableEq, Repr

/-- The key of a number in a sequence that ends in `~`. -/
def numberedKey (n : Nat) : Reading :=
  match n with
  | 1 | 7 => .key .home
  | 2 => .key .insert
  | 3 => .key .delete
  | 4 | 8 => .key .finish
  | 5 => .key .pageUp
  | 6 => .key .pageDown
  | _ =>
    if 11 ≤ n ∧ n ≤ 15 then .key (.function (n - 10))
    else if 17 ≤ n ∧ n ≤ 21 then .key (.function (n - 11))
    else if 23 ≤ n ∧ n ≤ 26 then .key (.function (n - 12))
    else if 28 ≤ n ∧ n ≤ 29 then .key (.function (n - 15))
    else if 31 ≤ n ∧ n ≤ 34 then .key (.function (n - 17))
    else .ignored

/-- The key of a letter that names a direction. -/
def directionKey (c : Char) : Reading :=
  match c with
  | 'A' => .key .up
  | 'B' => .key .down
  | 'C' => .key .right
  | 'D' => .key .left
  | 'H' => .key .home
  | 'F' => .key .finish
  | _ => .ignored

/-- The key of a letter after a number and what goes with it: a direction, or a function key. -/
def letteredKey (c : Char) : Reading :=
  match c with
  | 'P' => .key (.function 1)
  | 'Q' => .key (.function 2)
  | 'S' => .key (.function 4)
  | c => directionKey c

/-- The key of the parameters in a sequence that ends in `~`. Only the first of them counts, and
it has to be a number of one byte. -/
def parameterKey (parameters : List Char) : Reading :=
  let first := parameters.takeWhile (· ≠ ';')
  let n : Nat := first.foldl (fun n c => n * 10 + (c.toNat - 48)) 0
  if first.all Char.isDigit && decide (n ≤ 255) then numberedKey n else .ignored

/-- Reads the part of a sequence that follows `ESC [`, if it begins with a digit. The sequence
goes on to a letter or a sign like one. Some are reports: `M` ends one of the mouse, and `R` one
of the cursor. -/
def readNumbered (cs : List Char) : Reading :=
  match cs.tail.getLast? with
  | none => .unfinished
  | some final =>
    if '@' ≤ final ∧ final ≤ '~' then
      match final with
      | 'M' | 'R' => .ignored
      | '~' => parameterKey cs.dropLast
      | final => letteredKey final
    else .unfinished

/-- Reads the part of a sequence that follows `ESC [`. After `M` three bytes describe the mouse,
and after `<` everything does up to the next `M` or `m`. -/
def readBracket : List Char → Reading
  | [] => .unfinished
  | ['['] => .unfinished
  | '[' :: c :: _ =>
    if 'A' ≤ c ∧ c ≤ 'E' then .key (.function (c.toNat - 64)) else .ignored
  | 'M' :: report => if (String.ofList report).utf8ByteSize < 3 then .unfinished else .ignored
  | '<' :: report =>
    match report.getLast? with
    | some 'M' | some 'm' => .ignored
    | _ => .unfinished
  | 'Z' :: _ => .key .backTab
  | c :: rest => if c.isDigit then readNumbered (c :: rest) else directionKey c

/-- The key of a letter that follows `ESC O`: one of the first function keys. -/
def functionKey (c : Char) : Reading :=
  if 'P' ≤ c ∧ c ≤ 'S' then .key (.function (c.toNat - 79)) else .ignored

/-- The key of one character on its own. -/
def plainKey (c : Char) : Key :=
  let n := c.toNat
  if c = '\r' then .enter
  else if c = '\t' then .tab
  else if n = 0x7F then .backspace
  else if n = 0 then .char ' '
  else if n ≤ 0x1A then .char (Char.ofNat (n + 96))
  else if 0x1C ≤ n ∧ n ≤ 0x1F then .char (Char.ofNat (n + 24))
  else .char c

/-- Reads what has arrived since the last complete key; `more` says whether further characters
are already there. -/
def read (more : Bool) : List Char → Reading
  | [] => .unfinished
  | ['\x1b'] => if more then .unfinished else .key .escape
  | '\x1b' :: 'O' :: rest =>
    match rest with
    | [] => .unfinished
    | c :: _ => functionKey c
  | '\x1b' :: '[' :: rest => readBracket rest
  | '\x1b' :: '\x1b' :: _ => .key .escape
  | '\x1b' :: c :: _ => .key (plainKey c)
  | c :: _ => .key (plainKey c)

/-- The keys in some characters that arrive together, after `pending`, the beginning of a
sequence. Returns what is pending then. -/
def keys (pending : List Char) : List Char → List Key × List Char
  | [] => ([], pending)
  | c :: rest =>
    let received := pending ++ [c]
    match read (!rest.isEmpty) received with
    | .key k =>
      let (more, left) := keys [] rest
      (k :: more, left)
    | .ignored => keys [] rest
    | .unfinished => keys received rest

end Chip8.Terminal
