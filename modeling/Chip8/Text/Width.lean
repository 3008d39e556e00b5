import Chip8.Text.Attached
import Chip8.Text.Cluster
import Chip8.Text.Emoji
import Chip8.Text.Printable
import Chip8.Text.Wide

/-!
# How wide a text is

How many columns of a terminal a text takes. Most characters have a width of their own: marks and
other invisible characters take none, East Asian ones and pictures two, and the rest one. Some
depend on what follows them, so a text is measured from its end, and `Following` says what has been
seen: a picture is two columns wide with everything that is joined to it, a variation selector
changes the width of the picture before it, and some letters are written below others.

Widths follow the character data of Unicode 15.1, although clusters are those of a later version:
what is newer counts as an ordinary character here, and takes one column.
-/

set_option autoImplicit false

namespace Chip8

namespace CharClass

/-- Zero-width although they are letters: those that are drawn over the next character, and one
that is drawn within the one before. -/
def overNeighbour : CharClass where
  ranges := [
    (0x605, 0x605), (0x70F, 0x70F), (0x890, 0x891), (0x8E2, 0x8E2), (0xD4E, 0xD4E),
    (0xA8FA, 0xA8FA), (0x111C2, 0x111C3), (0x1171E, 0x1171E), (0x1193F, 0x1193F),
    (0x11941, 0x11941), (0x11A3A, 0x11A3A), (0x11A84, 0x11A89), (0x11D46, 0x11D46),
    (0x11F02, 0x11F02) ]

/-- Korean vowels and final consonants, which take the room of the first consonant. -/
def inSyllable : CharClass where
  ranges := [(0x1160, 0x11FF), (0xD7B0, 0xD7C6), (0xD7CB, 0xD7FB)]

/-- Khmer letters that can be written below another one. -/
def subscribable : CharClass where
  ranges := [
    (0x1780, 0x1782), (0x1784, 0x1787), (0x1789, 0x178C), (0x178E, 0x1793), (0x1795, 0x1798),
    (0x179B, 0x179D), (0x17A0, 0x17A0), (0x17A2, 0x17A2), (0x17A7, 0x17A7), (0x17AB, 0x17AC),
    (0x17AF, 0x17AF) ]

/-- Marks that do not keep a letter from being written below another one. -/
def transparent : CharClass where
  ranges := [
    (0x34F, 0x34F), (0x17B4, 0x17B5), (0x180B, 0x180D), (0x180F, 0x180F), (0x200D, 0x200D),
    (0xFE00, 0xFE0F), (0xE0100, 0xE01EF) ]

/-- The digits of the place that a flag stands for, in an invisible form. -/
def tagDigits : CharClass where
  ranges := [(0xE0030, 0xE0039)]

/-- The letters of the place that a flag stands for, in an invisible form. -/
def tagLetters : CharClass where
  ranges := [(0xE0061, 0xE007A)]

end CharClass

namespace Width

open CharClass

/-- Whether a character takes no column of its own. -/
def isZero (c : Char) : Bool :=
  (extending.has c && !recent.has c) || ignorable.has c || inSyllable.has c || overNeighbour.has c

/-- How many columns a character takes on its own. -/
def alone (c : Char) : Nat :=
  if c = '\u115F' ∨ c = '\u17A4' then 2
  else if c = '\u17D8' then 3
  else if c = '\u2D7F' then 1
  else if isZero c then 0
  else if wide.has c then 2
  else 1

/-- What stands before a joiner that has a picture after it, as far as it has been seen. Whatever
it turns out to be part of takes no columns, since the picture has them already. -/
inductive Joint where
  /-- nothing yet -/
  | bare
  /-- the selector that colours a picture -/
  | selector
  | keycap
  /-- a keycap, and the selector that it needs -/
  | keycapSelector
  /-- half of a flag -/
  | indicator
  /-- the end of a flag that is spelled, and so many of its letters -/
  | letters (count : Nat)
  /-- the end of a flag that is spelled, and so many of its digits -/
  | digits (count : Nat)
  deriving DecidableEq, Repr

/-- What follows a character, as far as it changes the character's width. -/
inductive Following where
  | nothing
  | lineFeed
  /-- the selector that turns a picture into text -/
  | textSelector
  /-- the selector that colours a picture -/
  | colourSelector
  | picture
  | tone
  /-- a letter that can be written below another one -/
  | subscribable
  /-- a joiner with a picture after it, and what stands before the joiner -/
  | joined (joint : Joint)
  deriving DecidableEq, Repr

/-- What a character is to the one before it, if nothing else matters. -/
def Following.of (c : Char) : Following :=
  if c = '\uFE0E' then .textSelector
  else if c = '\uFE0F' then .colourSelector
  else if tones.has c then .tone
  else if colourful.has c then .picture
  else if CharClass.subscribable.has c then .subscribable
  else .nothing

/-- A character that nothing after it changes. -/
def own (c : Char) : Int × Following := (alone c, .of c)

/-- A character that is joined to a picture: the columns it adds, and what it is to the character
before it. A flag is spelled with a place of two letters or three digits and then up to four
letters for a part of it. -/
def addJoined (c : Char) : Joint → Int × Following
  | .bare =>
    if c = '\uFE0F' then (0, .joined .selector)
    else if c = '\u20E3' then (0, .joined .keycap)
    else if flagLetters.has c then (1, .joined .indicator)
    else if c.toNat = 0xE007F then (0, .joined (.letters 0))
    else if tones.has c then (0, .tone)
    else if colourful.has c then (0, .picture)
    else own c
  | .keycap => if c = '\uFE0F' then (0, .joined .keycapSelector) else own c
  | .indicator => if flagLetters.has c then (-1, .nothing) else own c
  | .letters count =>
    if tagLetters.has c ∧ count < 6 then (0, .joined (.letters (count + 1)))
    else if tagDigits.has c ∧ count ≤ 4 then (0, .joined (.digits 1))
    else if c.toNat = 0x1F3F4 ∧ 3 ≤ count then (0, .picture)
    else own c
  | .digits count =>
    if tagDigits.has c ∧ count < 3 then (0, .joined (.digits (count + 1)))
    else if c.toNat = 0x1F3F4 ∧ count = 3 then (0, .picture)
    else own c
  | .selector | .keycapSelector => own c

/-- A character that no selector after it applies to: the columns it adds, and what it is to the
character before it. -/
def addUnselected (c : Char) (following : Following) : Int × Following :=
  if c ≤ '\u00A0' then
    if c = '\n' then (0, .lineFeed)
    else if c = '\r' ∧ following = .lineFeed then (0, .nothing)
    else (1, .nothing)
  else
    match following with
    | .subscribable =>
      if transparent.has c then (0, .subscribable)
      else if c = '\u17D2' then (-1, .nothing)
      else own c
    | .tone =>
      if tintable.has c then (0, .picture)
      else if c = '\u200D' then (0, .joined .bare)
      else own c
    | .picture => if c = '\u200D' then (0, .joined .bare) else own c
    | .joined joint => addJoined c joint
    | _ => own c

/-- The columns that a character adds to what follows it, and what it is to the character before
it. -/
def add (c : Char) (following : Following) : Int × Following :=
  match following with
  | .colourSelector => if colourable.has c then (2, .picture) else addUnselected c .nothing
  | .joined .selector | .joined .keycapSelector =>
    if colourable.has c then (0, .picture) else addUnselected c .nothing
  | .textSelector => if textual.has c then (1, .nothing) else addUnselected c .nothing
  | _ => addUnselected c following

/-- The columns of a text, and what it is to a character before it. -/
def measure : List Char → Int × Following
  | [] => (0, .nothing)
  | c :: rest =>
    let (columns, following) := measure rest
    let (more, following) := add c following
    (columns + more, following)

/-- How many columns a text takes. -/
def ofText (cs : List Char) : Nat := (measure cs).1.toNat

end Width

end Chip8
