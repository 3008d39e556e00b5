import Chip8.Opcode

/-!
# The register file

Sixteen bytes. `VF` doubles as the flag that arithmetic and drawing set. For whoever shows the
machine, each register carries a flag that says whether it was written since it was last looked
at, whatever the value; `dirty` says whether any was written by the instruction under way.
-/

set_option autoImplicit false

namespace Chip8

structure Registers where
  values : Vector UInt8 16
  /-- written since the flags were last taken -/
  changed : Vector Bool 16
  /-- written since the last report -/
  dirty : Bool
  deriving DecidableEq

namespace Registers

def zeroed : Registers := ⟨Vector.replicate 16 0, Vector.replicate 16 false, false⟩

def V0 : Register := ⟨0, by decide⟩

/-- The flag register. -/
def VF : Register := ⟨15, by decide⟩

def get (r : Registers) (x : Register) : UInt8 := r.values.get x

/-- Writes a register. Writing the value it already holds is a write, too. -/
def write (r : Registers) (x : Register) (value : UInt8) : Registers where
  values := r.values.set x.val value x.isLt
  changed := r.changed.set x.val true x.isLt
  dirty := true

theorem get_eq_getElem (r : Registers) (x : Register) : r.get x = r.values[x] := rfl

@[simp] theorem get_write_self (r : Registers) (x : Register) (value : UInt8) :
    (r.write x value).get x = value := by
  simp [get_eq_getElem, write]

/-- A write leaves all other registers as they were. -/
theorem get_write_of_ne (r : Registers) {x y : Register} (value : UInt8) (h : x ≠ y) :
    (r.write x value).get y = r.get y := by
  have h' : x.val ≠ y.val := fun e => h (Fin.ext e)
  simp [get_eq_getElem, write, h']

/-- Writes `V0` to `Vx`, each with its own value. -/
def writeThrough (r : Registers) (x : Register) (value : Register → UInt8) : Registers where
  values := Vector.ofFn fun k => if k ≤ x then value k else r.values.get k
  changed := Vector.ofFn fun k => if k ≤ x then true else r.changed.get k
  dirty := true

/-- The registers once their changed flags have been looked at. -/
def unmarked (r : Registers) : Registers := { r with changed := Vector.replicate 16 false }

/-- The registers once the instruction under way has been reported. -/
def reported (r : Registers) : Registers := { r with dirty := false }

end Registers

end Chip8
