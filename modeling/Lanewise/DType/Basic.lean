/-
# Scalar and vector types

A type is a category, a width in bits and a lane count. The record itself is
plain data; `DType.Valid` says which records name a type: a width of the
category's table, at least one lane, and a handle only as a scalar. Booleans
are the unsigned integers of one bit.

Key definitions: `TypeCode.widths`, `DType.Valid`, `DType.element`, `DType.wrap`.
-/

namespace Lanewise

/-- The category of a type; a handle is an opaque pointer. -/
inductive TypeCode where
  | int
  | uint
  | float
  | handle
deriving DecidableEq, Repr, Inhabited

/-- The widths in bits that a category comes in. -/
def TypeCode.widths : TypeCode → List UInt16
  | .int => [8, 16, 32, 64]
  | .uint => [1, 8, 16, 32, 64]
  | .float => [16, 32, 64]
  | .handle => [64]

/-- A lane type of `bits` bits, repeated over `lanes` lanes. -/
structure DType where
  code : TypeCode
  bits : UInt16
  lanes : UInt16
deriving DecidableEq, Repr, Inhabited

namespace DType

/-- The record names a type. -/
def Valid (d : DType) : Prop :=
  d.bits ∈ d.code.widths ∧ d.lanes ≠ 0 ∧ (d.code = .handle → d.lanes = 1)

instance : DecidablePred Valid := fun _ =>
  inferInstanceAs (Decidable (_ ∧ _ ∧ (_ → _)))

/-! ### Named types -/

/-- A signed integer of `bits` bits. -/
def int (bits : UInt16) : DType := ⟨.int, bits, 1⟩

/-- An unsigned integer of `bits` bits. -/
def uint (bits : UInt16) : DType := ⟨.uint, bits, 1⟩

/-- A float of `bits` bits. -/
def float (bits : UInt16) : DType := ⟨.float, bits, 1⟩

/-- The type of buffers and strings. -/
def handle : DType := ⟨.handle, 64, 1⟩

/-- Truth values over `lanes` lanes. -/
def bool (lanes : UInt16) : DType := ⟨.uint, 1, lanes⟩

/-! ### Classes of types -/

/-- A signed integer in each lane. -/
def isInt (d : DType) : Bool := d.code = .int

/-- An unsigned integer in each lane; a boolean is one, of one bit. -/
def isUInt (d : DType) : Bool := d.code = .uint

/-- A float in each lane. -/
def isFloat (d : DType) : Bool := d.code = .float

/-- An opaque pointer. -/
def isHandle (d : DType) : Bool := d.code = .handle

/-- A truth value in each lane. -/
def isBool (d : DType) : Bool := d.code = .uint ∧ d.bits = 1

/-- Signed or unsigned integers, booleans included. -/
def isIntegral (d : DType) : Bool := d.isInt || d.isUInt

/-- One lane. -/
def isScalar (d : DType) : Bool := d.lanes = 1

/-- Several lanes. -/
def isVector (d : DType) : Bool := 1 < d.lanes

/-! ### Lanes -/

/-- The same lane type over another lane count, which is not checked. -/
def withLanes (d : DType) (lanes : UInt16) : DType := { d with lanes }

/-- The type of one lane. -/
def element (d : DType) : DType := d.withLanes 1

@[simp] theorem element_element (d : DType) : d.element.element = d.element := rfl

@[simp] theorem element_withLanes (d : DType) (n : UInt16) : (d.withLanes n).element = d.element :=
  rfl

@[simp] theorem withLanes_lanes (d : DType) : d.withLanes d.lanes = d := rfl

/-! ### Integers of a type -/

/-- The value that a lane of this type keeps of `v`: 0 or 1 for booleans, else
the representative of `v` modulo `2 ^ bits` in the range of the category. A
type of 64 bits keeps the word as it is, and so do floats and handles. -/
def wrap (d : DType) (v : Int64) : Int64 :=
  if d.isBool then
    if v = 0 then 0 else 1
  else if d.bits < 64 then
    match d.code with
    | .int => Int64.ofInt (v.toInt.bmod (Nat.pow 2 d.bits.toNat))
    | .uint => Int64.ofInt (v.toInt % Nat.pow 2 d.bits.toNat)
    | .float | .handle => v
  else v

example : (int 8).wrap 300 = 44 ∧ (int 8).wrap 128 = -128 ∧ (uint 8).wrap (-1) = 255 := by
  decide

example : (bool 1).wrap 5 = 1 ∧ (uint 32).wrap (-1) = 4294967295 := by decide

end DType

end Lanewise
