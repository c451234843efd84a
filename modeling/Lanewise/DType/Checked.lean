/-
# Types that are checked when they are made

A type enters from outside as its three parts or as a text; both ways end in
`DType.Valid` or in an error that shows what was asked for.

Key definitions: `DType.make`, `DType.parse`, `DType.promote`.
Key theorems: `DType.make_eq_ok_iff`.
-/
import Lanewise.Error

namespace Lanewise.DType

/-- The type of the given parts. -/
def make (code : TypeCode) (bits lanes : UInt16) : Except BuildError DType :=
  if Valid ⟨code, bits, lanes⟩ then .ok ⟨code, bits, lanes⟩
  else .error (.unsupportedType code bits lanes)

/-- What is made is the type asked for, and it is valid. -/
theorem make_eq_ok_iff {code : TypeCode} {bits lanes : UInt16} {d : DType} :
    make code bits lanes = .ok d ↔ d = ⟨code, bits, lanes⟩ ∧ d.Valid := by
  grind [make]

/-- The same lane type over another lane count. -/
def toLanes (d : DType) (lanes : UInt16) : Except BuildError DType :=
  make d.code d.bits lanes

/-- The type that a text names. -/
def parse (text : String) : Except BuildError DType :=
  match read? text.toList with
  | some d => .ok d
  | none => .error (.unreadableType text)

/-! ### Promotion -/

/-- The type in which the operation `op` combines `a` and `b`. With unequal
lane counts exactly one of them is scalar and the other one wins; with equal
counts they are the same type, or the one float wins over an integer. -/
def promote (op : String) (a b : DType) : Except BuildError DType :=
  if a.lanes ≠ b.lanes then
    if a.isScalar then .ok b
    else if b.isScalar then .ok a
    else .error (.dtypeMismatch op a b)
  else if a = b then .ok a
  else if a.isFloat ∧ b.isIntegral then .ok a
  else if b.isFloat ∧ a.isIntegral then .ok b
  else .error (.dtypeMismatch op a b)

end Lanewise.DType
