import Mathlib.Data.List.Forall2
import Mathlib.Logic.Function.Basic
import Chip8.Instruction.Listing
import Chip8.Proofs.Instruction.Spelling

/-!
# Mnemonics are patterns

A mnemonic is written for readers, but it has a meaning of its own: `8XY4` says that the first digit
of the opcode is 8 and the last one 4, and that the two between are the operands. `pattern?` reads a
mnemonic that way, `Fits` says that an opcode has the digits that a mnemonic asks for and the
operands at its letters, and `opcode?` puts the operands into the mnemonic and gives the opcode.

Nothing in `decode` refers to mnemonics, so that the two agree is not a matter of course. They do
(`decode_reads_mnemonics`), and the one place where mnemonics leave a choice is `0NNN`, which fits
`00E0` and `00EE` as well.
-/

set_option autoImplicit false

namespace Chip8

/-! ## Patterns -/

namespace Mnemonic

/-- A letter of a mnemonic. It stands for a digit of an operand. -/
inductive Letter where
  | x | y | n
  deriving DecidableEq

/-- One of the four places of a mnemonic. -/
inductive Slot where
  | digit (d : Fin 16)
  | letter (l : Letter)
  deriving DecidableEq

/-- What a character of a mnemonic says; a question mark says nothing. -/
def read? (c : Char) : Option Slot :=
  match c with
  | 'X' => some (.letter .x)
  | 'Y' => some (.letter .y)
  | 'N' => some (.letter .n)
  | _ => (Hex.value? c).map fun v => .digit (Fin.ofNat 16 v)

/-- A digit admits itself, and a letter any digit. -/
def Slot.Admits : Slot → Fin 16 → Prop
  | digit d, e => e = d
  | letter _, _ => True

/-- The opcode has a digit wherever the pattern has the same one, and any digits at its letters. -/
def Matches (pattern : List Slot) (op : Opcode) : Prop :=
  List.Forall₂ Slot.Admits pattern op.nibbles

theorem matches_iff {a b c d : Slot} {op : Opcode} :
    Matches [a, b, c, d] op
      ↔ a.Admits op.family ∧ b.Admits op.x ∧ c.Admits op.y ∧ d.Admits op.n := by
  simp [Matches, Opcode.nibbles]

/-- The digits that stand where the pattern has the letter. -/
def digitsAt (l : Letter) (pattern : List Slot) (digits : List (Fin 16)) : List (Fin 16) :=
  (pattern.zip digits).filterMap fun (slot, d) => if slot = .letter l then some d else none

/-- The pattern with every letter replaced by the next digit of its operand; `none` if an operand
has too few of them. -/
def fill (operand : Letter → List (Fin 16)) : List Slot → Option (List (Fin 16))
  | [] => some []
  | .digit d :: pattern => (fill operand pattern).map (d :: ·)
  | .letter l :: pattern =>
    match operand l with
    | [] => none
    | d :: rest => (fill (Function.update operand l rest) pattern).map (d :: ·)

/-- That many digits of a number, the most significant one first. -/
def digitsOf (width n : Nat) : List (Fin 16) :=
  (List.range width).reverse.map fun k => Fin.ofNat 16 (n >>> (4 * k))

theorem digitsOf_two (n : Nat) : digitsOf 2 n = [Fin.ofNat 16 (n / 16), Fin.ofNat 16 n] := by
  simp [digitsOf, List.range_succ, Nat.shiftRight_eq_div_pow]

theorem digitsOf_three (n : Nat) :
    digitsOf 3 n = [Fin.ofNat 16 (n / 256), Fin.ofNat 16 (n / 16), Fin.ofNat 16 n] := by
  simp [digitsOf, List.range_succ, Nat.shiftRight_eq_div_pow]

/-- What a pattern is filled with stands at its letters, and the rest of it stands as it was. -/
theorem fill_spec {pattern : List Slot} {operand : Letter → List (Fin 16)}
    {digits : List (Fin 16)} (enough : ∀ l, (operand l).length = pattern.count (.letter l))
    (filled : fill operand pattern = some digits) :
    List.Forall₂ Slot.Admits pattern digits ∧ ∀ l, digitsAt l pattern digits = operand l := by
  induction pattern generalizing operand digits with
  | nil =>
    cases filled
    exact ⟨.nil, fun l => (List.eq_nil_of_length_eq_zero (enough l)).symm⟩
  | cons slot pattern ih =>
    cases slot with
    | digit d =>
      obtain ⟨rest, filledRest, rfl⟩ := Option.map_eq_some_iff.mp filled
      obtain ⟨admitted, inPlace⟩ := ih (fun l => by simpa using enough l) filledRest
      exact ⟨.cons rfl admitted, inPlace⟩
    | letter l =>
      have count := enough l
      simp only [fill] at filled
      cases first : operand l with
      | nil => simp [first] at count
      | cons d left =>
        simp only [first] at filled
        obtain ⟨rest, filledRest, rfl⟩ := Option.map_eq_some_iff.mp filled
        -- the letter has used up one of its digits and one of its places
        have enough' (m : Letter) :
            (Function.update operand l left m).length = pattern.count (.letter m) := by
          have := enough m
          by_cases same : m = l
          · subst same
            simpa [first] using this
          · simpa [Function.update_of_ne same, Ne.symm same] using this
        obtain ⟨admitted, inPlace⟩ := ih enough' filledRest
        refine ⟨.cons trivial admitted, fun m => ?_⟩
        have later := inPlace m
        by_cases same : m = l
        · subst same
          simpa [digitsAt, first] using later
        · rw [Function.update_of_ne same] at later
          simpa [digitsAt, Ne.symm same] using later

end Mnemonic

open Mnemonic

/-! ## Digits of an opcode -/

namespace Opcode

variable {op : Opcode}

/-- The opcode with these digits. -/
def ofDigits (digits : List (Fin 16)) : Opcode :=
  UInt16.ofNat (digits.foldl (fun n d => n * 16 + d.val) 0)

theorem ofDigits_nibbles (op : Opcode) : ofDigits op.nibbles = op := by
  have := op.toNat_lt
  rw [← UInt16.toNat_inj, ofDigits, UInt16.toNat_ofNat']
  simp only [nibbles, List.foldl_cons, List.foldl_nil, family, x, y, n]
  omega

theorem nibbles_ofDigits (a b c d : Fin 16) : (ofDigits [a, b, c, d]).nibbles = [a, b, c, d] := by
  have number :
      (ofDigits [a, b, c, d]).toNat = ((a.val * 16 + b.val) * 16 + c.val) * 16 + d.val := by
    rw [ofDigits, UInt16.toNat_ofNat']
    simp only [List.foldl_cons, List.foldl_nil]
    omega
  simp only [nibbles, family, x, y, n, number, List.cons.injEq, and_true, ← Fin.val_inj]
  omega

theorem toNat_nn (op : Opcode) : op.nn.toNat = op.toNat % 256 := by
  simp [nn]

theorem digitsOf_nn (op : Opcode) : digitsOf 2 op.nn.toNat = [op.y, op.n] := by
  simp only [digitsOf_two, toNat_nn, List.cons.injEq, and_true, ← Fin.val_inj, Fin.val_ofNat, y, n]
  omega

theorem digitsOf_nnn (op : Opcode) : digitsOf 3 op.nnn.val = [op.x, op.y, op.n] := by
  simp only [digitsOf_three, nnn, Address.ofWord, List.cons.injEq, and_true, ← Fin.val_inj,
    Fin.val_ofNat, x, y, n]
  omega

theorem eq_ofDigits {a b c d : Fin 16} (family : op.family = a) (x : op.x = b) (y : op.y = c)
    (n : op.n = d) : op = ofDigits [a, b, c, d] := by
  rw [← family, ← x, ← y, ← n]
  exact (ofDigits_nibbles op).symm

theorem eq_toWord_nnn (family : op.family = 0) : op = op.nnn.toWord := by
  have top : op.toNat / 4096 % 16 = 0 := congrArg Fin.val family
  have := op.toNat_lt
  rw [← UInt16.toNat_inj, Address.toNat_toWord]
  show op.toNat = op.toNat % 4096
  omega

theorem nn_eq {c d : Fin 16} (y : op.y = c) (n : op.n = d) :
    op.nn = UInt8.ofNat (c.val * 16 + d.val) := by
  subst y n
  rw [← UInt8.toNat_inj, toNat_nn, UInt8.toNat_ofNat']
  show op.toNat % 256 = (op.toNat / 16 % 16 * 16 + op.toNat % 16) % 256
  omega

/-- Two digits are those of one constant only. -/
theorem nn_eq_of_digits {nn : UInt8} (h : [op.y, op.n] = digitsOf 2 nn.toNat) : op.nn = nn := by
  have := nn.toNat_lt
  have := op.nn.toNat_lt
  rw [← digitsOf_nn] at h
  simp only [digitsOf_two, List.cons.injEq, and_true, ← Fin.val_inj, Fin.val_ofNat] at h
  rw [← UInt8.toNat_inj]
  omega

/-- Three digits are those of one address only. -/
theorem nnn_eq_of_digits {target : Address} (h : [op.x, op.y, op.n] = digitsOf 3 target.val) :
    op.nnn = target := by
  rw [← digitsOf_nnn] at h
  simp only [digitsOf_three, List.cons.injEq, and_true, ← Fin.val_inj, Fin.val_ofNat] at h
  rw [← Fin.val_inj]
  omega

end Opcode

/-! ## Instructions and their mnemonics -/

namespace Instruction

/-- The mnemonic as a pattern; `none` for that of an unknown word. -/
def pattern? (ins : Instruction) : Option (List Slot) := ins.mnemonic.toList.mapM read?

/-- The digits of the operands, under the letters that stand for them. -/
def operands : Instruction → Letter → List (Fin 16)
  | clearScreen | ret | unknown _ => spread [] [] []
  | machineCall target | jump target | call target | setIndex target | jumpWithOffset target =>
    spread [] [] (digitsOf 3 target.val)
  | skipEqualConstant x nn | skipNotEqualConstant x nn | setRegister x nn | addToRegister x nn
  | random x nn => spread [x] [] (digitsOf 2 nn.toNat)
  | skipEqualRegister x y | skipNotEqualRegister x y | copyRegister x y | bitOr x y | bitAnd x y
  | bitXor x y | add x y | subtractForward x y | rightShift x y | subtractBackward x y
  | leftShift x y => spread [x] [y] []
  | draw x y n => spread [x] [y] [n]
  | skipIfPressed x | skipIfNotPressed x | copyDelayToRegister x | waitForKey x
  | copyRegisterToDelay x | copyRegisterToSound x | addToIndex x | pointAtGlyph x | storeDecimal x
  | storeRegisters x | loadRegisters x => spread [x] [] []
where
  spread (x y n : List (Fin 16)) : Letter → List (Fin 16)
    | .x => x
    | .y => y
    | .n => n

/-- The mnemonic with the operands filled in. -/
def digits? (ins : Instruction) : Option (List (Fin 16)) := ins.pattern?.bind (fill ins.operands)

/-- The opcode that is written by filling the operands into the mnemonic. -/
def opcode? (ins : Instruction) : Option Opcode := ins.digits?.map Opcode.ofDigits

/-- The opcode has the digits of the mnemonic, and the operands stand at the letters. -/
def Fits (ins : Instruction) (op : Opcode) : Prop :=
  ∃ pattern, ins.pattern? = some pattern ∧ Matches pattern op
    ∧ ∀ l, digitsAt l pattern op.nibbles = ins.operands l

variable {op : Opcode} {ins : Instruction} {pattern : List Slot}

/-- Each letter of a mnemonic has its digit among the operands, and no digit is left over. -/
theorem length_operands (read : ins.pattern? = some pattern) (l : Letter) :
    (ins.operands l).length = pattern.count (.letter l) := by
  unfold pattern? at read
  cases ins <;> rw [mnemonic] at read <;> cases read <;> cases l <;> rfl

theorem fits_of_digits? (written : ins.digits? = some op.nibbles) : ins.Fits op := by
  obtain ⟨pattern, read, filled⟩ := Option.bind_eq_some_iff.mp written
  exact ⟨pattern, read, fill_spec (length_operands read) filled⟩

theorem digits?_of_spelled (spelled : ins.Spelled op) (known : ∀ word, ins ≠ .unknown word) :
    ins.digits? = some op.nibbles := by
  have constant := op.digitsOf_nn
  have address := op.digitsOf_nnn
  -- a digit that the instruction does not name is one that its spelling fixes; the operands supply
  -- the others
  unfold digits? pattern?
  cases ins with
  | unknown word => exact absurd rfl (known word)
  | clearScreen | ret =>
    cases spelled
    rfl
  | jump | call | setIndex | jumpWithOffset =>
    obtain ⟨family, rfl⟩ := spelled
    rw [Opcode.nibbles, family]
    rw [mnemonic, operands, address]
    rfl
  | machineCall =>
    obtain ⟨family, -, -, rfl⟩ := spelled
    rw [Opcode.nibbles, family]
    rw [mnemonic, operands, address]
    rfl
  | skipEqualConstant | skipNotEqualConstant | setRegister | addToRegister | random =>
    obtain ⟨family, rfl, rfl⟩ := spelled
    rw [Opcode.nibbles, family]
    rw [mnemonic, operands, constant]
    rfl
  | copyRegister | bitOr | bitAnd | bitXor | add | subtractForward | rightShift | subtractBackward
  | leftShift | skipEqualRegister | skipNotEqualRegister =>
    obtain ⟨family, last, rfl, rfl⟩ := spelled
    rw [Opcode.nibbles, family, last]
    rw [mnemonic]
    rfl
  | draw =>
    obtain ⟨family, rfl, rfl, rfl⟩ := spelled
    rw [Opcode.nibbles, family]
    rw [mnemonic]
    rfl
  | skipIfPressed | skipIfNotPressed =>
    obtain ⟨family, low, rfl⟩ := spelled
    rw [low] at constant
    rw [Opcode.nibbles, family, ← constant]
    rw [mnemonic]
    rfl
  | copyDelayToRegister | waitForKey | copyRegisterToDelay | copyRegisterToSound | addToIndex
  | pointAtGlyph | storeDecimal | storeRegisters | loadRegisters =>
    obtain ⟨⟨family, low⟩, rfl⟩ := spelled
    rw [low] at constant
    rw [Opcode.nibbles, family, ← constant]
    rw [mnemonic]
    rfl

theorem spelled_of_fits (fits : ins.Fits op) :
    ins.Spelled op ∨ (op = 0x00E0 ∨ op = 0x00EE) ∧ ins = .machineCall op.nnn := by
  obtain ⟨pattern, read, matched, inPlace⟩ := fits
  unfold pattern? at read
  -- the four places of the mnemonic, digits or letters, say what the four digits are
  cases ins <;> rw [mnemonic] at read <;> cases read <;>
    obtain ⟨family, x, y, last⟩ := matches_iff.mp matched
  case clearScreen | ret => exact .inl (Opcode.eq_ofDigits family x y last)
  case machineCall =>
    have operand := Opcode.nnn_eq_of_digits (inPlace .n)
    -- `0NNN` admits these two words as well, though they spell something else
    by_cases literal : op = 0x00E0 ∨ op = 0x00EE
    · exact .inr ⟨literal, by rw [operand]⟩
    · obtain ⟨notClear, notReturn⟩ := not_or.mp literal
      exact .inl ⟨family, notClear, notReturn, operand⟩
  case jump | call | setIndex | jumpWithOffset =>
    exact .inl ⟨family, Opcode.nnn_eq_of_digits (inPlace .n)⟩
  case skipEqualConstant | skipNotEqualConstant | setRegister | addToRegister | random =>
    exact .inl ⟨family, List.singleton_inj.mp (inPlace .x), Opcode.nn_eq_of_digits (inPlace .n)⟩
  case copyRegister | bitOr | bitAnd | bitXor | add | subtractForward | rightShift
    | subtractBackward | leftShift | skipEqualRegister | skipNotEqualRegister =>
    exact .inl ⟨family, last, List.singleton_inj.mp (inPlace .x),
      List.singleton_inj.mp (inPlace .y)⟩
  case draw =>
    exact .inl ⟨family, List.singleton_inj.mp (inPlace .x), List.singleton_inj.mp (inPlace .y),
      List.singleton_inj.mp (inPlace .n)⟩
  case skipIfPressed | skipIfNotPressed =>
    exact .inl ⟨family, Opcode.nn_eq y last, List.singleton_inj.mp (inPlace .x)⟩
  case copyDelayToRegister | waitForKey | copyRegisterToDelay | copyRegisterToSound | addToIndex
    | pointAtGlyph | storeDecimal | storeRegisters | loadRegisters =>
    exact .inl ⟨⟨family, Opcode.nn_eq y last⟩, List.singleton_inj.mp (inPlace .x)⟩

/-- A pattern that an opcode matches is the one of its instruction, unless the instruction has no
operands and the pattern is `0NNN`. -/
theorem mnemonic_decode (read : ins.pattern? = some pattern) (matched : Matches pattern op) :
    (decode op).mnemonic = ins.mnemonic
      ∨ ins.mnemonic = "0NNN" ∧ (decode op = .clearScreen ∨ decode op = .ret) := by
  unfold pattern? at read
  cases ins <;> rw [mnemonic] at read <;> cases read <;>
    obtain ⟨family, x, y, last⟩ := matches_iff.mp matched
  case clearScreen | ret =>
    rw [Opcode.eq_ofDigits family x y last]
    exact .inl rfl
  case machineCall =>
    -- the one pattern that overlaps with others
    by_cases clears : op = 0x00E0
    · exact .inr ⟨rfl, .inl (by rw [clears]; rfl)⟩
    by_cases returns : op = 0x00EE
    · exact .inr ⟨rfl, .inr (by rw [returns]; rfl)⟩
    have decoded : decode op = .machineCall op.nnn :=
      decode_of_spelled ⟨family, clears, returns, rfl⟩
    rw [decoded]
    exact .inl rfl
  case jump | call | setIndex | jumpWithOffset | skipEqualConstant | skipNotEqualConstant
    | setRegister | addToRegister | random | draw =>
    unfold decode
    rw [show op.family = _ from family]
    exact .inl rfl
  case skipEqualRegister | skipNotEqualRegister =>
    unfold decode
    rw [show op.family = _ from family, show op.n = _ from last]
    exact .inl rfl
  case copyRegister | bitOr | bitAnd | bitXor | add | subtractForward | rightShift
    | subtractBackward | leftShift =>
    unfold decode decodeArithmetic
    rw [show op.family = _ from family, show op.n = _ from last]
    exact .inl rfl
  case skipIfPressed | skipIfNotPressed =>
    unfold decode decodeKeySkip
    rw [show op.family = _ from family, Opcode.nn_eq y last]
    exact .inl rfl
  case copyDelayToRegister | waitForKey | copyRegisterToDelay | copyRegisterToSound | addToIndex
    | pointAtGlyph | storeDecimal | storeRegisters | loadRegisters =>
    unfold decode decodeTransfer
    rw [show op.family = _ from family, Opcode.nn_eq y last]
    exact .inl rfl

/-- Every mnemonic but that of an unknown word can be filled in. -/
theorem exists_opcode? (known : ∀ word, ins ≠ .unknown word) :
    ∃ op, ins.opcode? = some op ∧ ins.digits? = some op.nibbles := by
  obtain ⟨a, b, c, d, written⟩ : ∃ a b c d, ins.digits? = some [a, b, c, d] := by
    unfold digits? pattern?
    cases ins with
    | unknown word => exact absurd rfl (known word)
    | _ =>
      rw [mnemonic]
      exact ⟨_, _, _, _, rfl⟩
  refine ⟨Opcode.ofDigits [a, b, c, d], ?_, ?_⟩
  · rw [opcode?, written]
    rfl
  · rw [written, Opcode.nibbles_ofDigits]

theorem decode_fits (known : ∀ word, decode op ≠ .unknown word) : (decode op).Fits op :=
  fits_of_digits? (digits?_of_spelled (decode_spelled op) known)

theorem eq_of_decode_unknown {word : Opcode} (unknown : decode op = .unknown word) :
    word = op := by
  have spelled := decode_spelled op
  rw [unknown] at spelled
  exact spelled.2.symm

/-- **Decoding reads mnemonics.** Take an opcode. If no mnemonic matches it digit by digit, it is
unknown, and that is the only way to be unknown. If one does, the mnemonic of its instruction does,
with the operands at the letters `X`, `Y` and `N`; and any other that matches it is `0NNN`, which
gives way to `00E0` and `00EE`. The other way round, take an instruction that is known. Its operands
fill its mnemonic to an opcode, and the instruction is what this opcode decodes to, except for the
two calls of host routines that are written like `00E0` and `00EE`. -/
theorem decode_reads_mnemonics :
    (∀ op : Opcode,
      (decode op = .unknown op
        ↔ ∀ (ins : Instruction) pattern, ins.pattern? = some pattern → ¬ Matches pattern op)
      ∧ (∀ word, decode op = .unknown word → word = op)
      ∧ (decode op ≠ .unknown op → ∃ pattern, (decode op).pattern? = some pattern
          ∧ Matches pattern op ∧ ∀ l, digitsAt l pattern op.nibbles = (decode op).operands l)
      ∧ ∀ (ins : Instruction) pattern, ins.pattern? = some pattern → Matches pattern op →
          (decode op).mnemonic = ins.mnemonic
            ∨ ins.mnemonic = "0NNN" ∧ (decode op = .clearScreen ∨ decode op = .ret))
    ∧ ∀ ins : Instruction, (∀ word, ins ≠ .unknown word) →
        ∃ op, ins.opcode? = some op
          ∧ (decode op = ins ↔ ins ≠ .machineCall 0x0E0 ∧ ins ≠ .machineCall 0x0EE) := by
  refine ⟨fun op => ?_, fun ins known => ?_⟩
  · have fits (notUnknown : decode op ≠ .unknown op) : (decode op).Fits op :=
      decode_fits fun word unknown => notUnknown (eq_of_decode_unknown unknown ▸ unknown)
    refine ⟨⟨fun unknown ins pattern read matched => ?_, fun unmatched => ?_⟩,
      fun _ => eq_of_decode_unknown, fits, fun _ _ => mnemonic_decode⟩
    -- an unknown word has no pattern to be the matching one
    · rcases mnemonic_decode read matched with same | ⟨-, clears | returns⟩
      · rw [unknown] at same
        have unread : (Instruction.unknown op).pattern? = none := by
          simp only [pattern?, mnemonic]
          rfl
        rw [pattern?, ← same, ← pattern?, unread] at read
        cases read
      · rw [unknown] at clears
        cases clears
      · rw [unknown] at returns
        cases returns
    · by_contra notUnknown
      obtain ⟨pattern, read, matched, -⟩ := fits notUnknown
      exact unmatched _ _ read matched
  · obtain ⟨op, written, digits⟩ := exists_opcode? known
    refine ⟨op, written, ?_⟩
    -- an instruction that its own opcode does not spell is one of the two calls that are written
    -- like something else
    rcases spelled_of_fits (fits_of_digits? digits) with spelled | ⟨literal, rfl⟩
    · refine ⟨fun _ => ⟨?_, ?_⟩, fun _ => decode_of_spelled spelled⟩
      · rintro rfl
        obtain ⟨family, notClear, -, target⟩ := spelled
        exact notClear ((Opcode.eq_toWord_nnn family).trans (congrArg Address.toWord target))
      · rintro rfl
        obtain ⟨family, -, notReturn, target⟩ := spelled
        exact notReturn ((Opcode.eq_toWord_nnn family).trans (congrArg Address.toWord target))
    · rcases literal with rfl | rfl
      · exact ⟨fun decoded => (by cases decoded), fun ⟨notClear, _⟩ => absurd rfl notClear⟩
      · exact ⟨fun decoded => (by cases decoded), fun ⟨_, notReturn⟩ => absurd rfl notReturn⟩

/-- `8AB6` shifts `VA`, a word that is written like a return is one, and `8128` is nothing. -/
theorem decode_reads_mnemonics_overlapping :
    ((rightShift 0xA 0xB).opcode? = some 0x8AB6 ∧ decode 0x8AB6 = .rightShift 0xA 0xB)
      ∧ ((machineCall 0x0EE).opcode? = some 0x00EE ∧ decode 0x00EE ≠ .machineCall 0x0EE)
      ∧ ∀ (ins : Instruction) pattern, ins.pattern? = some pattern → ¬ Matches pattern 0x8128 := by
  obtain ⟨reads, writes⟩ := decode_reads_mnemonics
  have shift : (rightShift 0xA 0xB).opcode? = some 0x8AB6 := by
    simp only [opcode?, digits?, pattern?, mnemonic]
    rfl
  have return_ : (machineCall 0x0EE).opcode? = some 0x00EE := by
    simp only [opcode?, digits?, pattern?, mnemonic]
    rfl
  obtain ⟨op, written, decodes⟩ := writes (rightShift 0xA 0xB) nofun
  obtain ⟨op', written', decodes'⟩ := writes (machineCall 0x0EE) nofun
  cases shift.symm.trans written
  cases return_.symm.trans written'
  exact ⟨⟨shift, decodes.mpr ⟨nofun, nofun⟩⟩, ⟨return_, fun same => (decodes'.mp same).2 rfl⟩,
    (reads 0x8128).1.mp rfl⟩

end Instruction

end Chip8
