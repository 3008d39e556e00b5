import Chip8.Text.Attached
import Chip8.Text.Conjunct
import Chip8.Text.Emoji

/-!
# Clusters of characters

What a reader takes for one sign can be several characters: a letter with its accents, a Korean
syllable from its letters, an Indian conjunct, a family joined from people, a flag from two
letters. `Cluster.split` divides a text into such signs. It looks at each character once and keeps
only what the sign so far ends in (`Ending`), which says whether the next character (by its `Role`)
still belongs to it. The rules are Unicode's for extended grapheme clusters. `flatten_split` says
that the clusters are the text, cut up.
-/

set_option autoImplicit false

namespace Chip8

namespace CharClass

/-- Controls and formats that stand apart from everything. -/
def controls : CharClass where
  ranges := [
    (0x0, 0x1F), (0x7F, 0x9F), (0xAD, 0xAD), (0x61C, 0x61C), (0x180E, 0x180E), (0x200B, 0x200B),
    (0x200E, 0x200F), (0x2028, 0x202E), (0x2060, 0x206F), (0xFEFF, 0xFEFF), (0xFFF0, 0xFFFB),
    (0x13430, 0x1343F), (0x1BCA0, 0x1BCA3), (0x1D173, 0x1D17A), (0xE0000, 0xE001F),
    (0xE0080, 0xE00FF), (0xE01F0, 0xE0FFF) ]

/-- Signs that belong to the character after them. -/
def prepended : CharClass where
  ranges := [
    (0x600, 0x605), (0x6DD, 0x6DD), (0x70F, 0x70F), (0x890, 0x891), (0x8E2, 0x8E2), (0xD4E, 0xD4E),
    (0x110BD, 0x110BD), (0x110CD, 0x110CD), (0x111C2, 0x111C3), (0x113D1, 0x113D1),
    (0x1193F, 0x1193F), (0x11941, 0x11941), (0x11A84, 0x11A89), (0x11D46, 0x11D46),
    (0x11F02, 0x11F02) ]

/-- Korean consonants at the beginning of a syllable. -/
def leadingJamo : CharClass where
  ranges := [(0x1100, 0x115F), (0xA960, 0xA97C)]

/-- Korean vowels, and those of a script that builds its vowels the same way. -/
def vowelJamo : CharClass where
  ranges := [(0x1160, 0x11A7), (0xD7B0, 0xD7C6), (0x16D63, 0x16D63), (0x16D67, 0x16D6A)]

/-- Korean consonants at the end of a syllable. -/
def trailingJamo : CharClass where
  ranges := [(0x11A8, 0x11FF), (0xD7CB, 0xD7FB)]

/-- Whole Korean syllables: of each 28 the first is open, and the others have a consonant at their
end. -/
def syllables : CharClass where
  ranges := [(0xAC00, 0xD7A3)]

/-- The letters that pair up to a flag. -/
def flagLetters : CharClass where
  ranges := [(0x1F1E6, 0x1F1FF)]

end CharClass

namespace Cluster

/-- What a character does in a cluster. -/
inductive Role where
  | carriageReturn
  | lineFeed
  | control
  | extending
  | linker
  /-- the joiner of pictures -/
  | joiner
  /-- it extends, but keeps consonants apart -/
  | nonJoiner
  | spacing
  | prepended
  | leading
  | vowel
  | trailing
  | openSyllable
  | closedSyllable
  | flagLetter
  | pictograph
  | consonant
  | other
  deriving DecidableEq, Repr

open CharClass in
def Role.of (c : Char) : Role :=
  if c = '\r' then .carriageReturn
  else if c = '\n' then .lineFeed
  else if ' ' ≤ c ∧ c ≤ '~' then .other
  else if controls.has c then .control
  else if c = '\u200D' then .joiner
  else if c = '\u200C' then .nonJoiner
  else if linkers.has c then .linker
  else if CharClass.extending.has c || tones.has c then .extending
  else if CharClass.spacing.has c then .spacing
  else if CharClass.prepended.has c then .prepended
  else if leadingJamo.has c then .leading
  else if vowelJamo.has c then .vowel
  else if trailingJamo.has c then .trailing
  else if syllables.has c then
    if (c.toNat - 0xAC00) % 28 = 0 then .openSyllable else .closedSyllable
  else if flagLetters.has c then .flagLetter
  else if pictographs.has c then .pictograph
  else if consonants.has c then .consonant
  else .other

/-- What a cluster ends in, as far as the next character cares. -/
inductive Ending where
  | carriageReturn
  /-- nothing may follow -/
  | barrier
  /-- anything may follow -/
  | prepended
  | leading
  | vowel
  | trailing
  /-- the first letter of a flag -/
  | flagLetter
  /-- a picture, extended or not -/
  | pictograph
  /-- a picture with a joiner after it -/
  | joinedPictograph
  /-- a consonant, extended or not -/
  | consonant
  /-- a consonant with a linker after it -/
  | linkedConsonant
  | other
  deriving DecidableEq, Repr

/-- What a cluster ends in that a character begins. -/
def Ending.ofFirst : Role → Ending
  | .carriageReturn => .carriageReturn
  | .lineFeed | .control => .barrier
  | .prepended => .prepended
  | .leading => .leading
  | .vowel | .openSyllable => .vowel
  | .trailing | .closedSyllable => .trailing
  | .flagLetter => .flagLetter
  | .pictograph => .pictograph
  | .consonant => .consonant
  | _ => .other

/-- Whether a character belongs to the cluster before it. -/
def Ending.admits : Ending → Role → Bool
  | .carriageReturn, next => next = .lineFeed
  | .barrier, _ => false
  | _, .carriageReturn | _, .lineFeed | _, .control => false
  | _, .extending | _, .linker | _, .joiner | _, .nonJoiner | _, .spacing => true
  | .prepended, _ => true
  | .leading, .leading | .leading, .vowel | .leading, .openSyllable
  | .leading, .closedSyllable => true
  | .vowel, .vowel | .vowel, .trailing => true
  | .trailing, .trailing => true
  | .flagLetter, .flagLetter => true
  | .joinedPictograph, .pictograph => true
  | .linkedConsonant, .consonant => true
  | _, _ => false

/-- What a cluster ends in once a character has been added. -/
def Ending.add : Ending → Role → Ending
  | .pictograph, .extending | .pictograph, .linker | .pictograph, .nonJoiner => .pictograph
  | .pictograph, .joiner => .joinedPictograph
  | .consonant, .extending | .consonant, .joiner => .consonant
  | .consonant, .linker => .linkedConsonant
  | .linkedConsonant, .extending | .linkedConsonant, .joiner
  | .linkedConsonant, .linker => .linkedConsonant
  | .flagLetter, .flagLetter => .other
  | _, next => .ofFirst next

/-- Splits the rest of a text, after the beginning of a cluster, whose characters come last
first. -/
def splitAfter (ending : Ending) (begun : List Char) : List Char → List (List Char)
  | [] => [begun.reverse]
  | c :: rest =>
    if ending.admits (.of c) then splitAfter (ending.add (.of c)) (c :: begun) rest
    else begun.reverse :: splitAfter (.ofFirst (.of c)) [c] rest

/-- The clusters of a text. -/
def split : List Char → List (List Char)
  | [] => []
  | c :: rest => splitAfter (.ofFirst (.of c)) [c] rest

theorem flatten_splitAfter (ending : Ending) (begun rest : List Char) :
    (splitAfter ending begun rest).flatten = begun.reverse ++ rest := by
  induction rest generalizing ending begun with
  | nil => simp [splitAfter]
  | cons c rest ih =>
    rw [splitAfter]
    split
    · simp [ih]
    · simp [ih]

/-- No character is lost, and none changes its place. -/
theorem flatten_split (text : List Char) : (split text).flatten = text := by
  cases text with
  | nil => rfl
  | cons c rest => simp [split, flatten_splitAfter]

end Cluster

end Chip8
