/-
# The text of a type

A type is written as its category and width, `int32`, followed by `x` and the
lane count when there is more than one lane, `int32x4`. A scalar boolean is
`bool` and a handle is `handle`. The reader takes more spellings than the
writer makes: `boolx4`, `int32x1`, leading zeros, and one `+` before a lane count.

Key definitions: `DType.text`, `DType.read?`.
-/
import Lanewise.DType.Basic

namespace Lanewise

/-- The category as it starts a type's text. -/
def TypeCode.name : TypeCode → String
  | .int => "int"
  | .uint => "uint"
  | .float => "float"
  | .handle => "handle"

/-- The category as error messages show it. -/
def TypeCode.label : TypeCode → String
  | .int => "Int"
  | .uint => "UInt"
  | .float => "Float"
  | .handle => "Handle"

namespace DType

/-- The text of a type. Only the scalar boolean has a name of its own; over several lanes it
is an unsigned integer of one bit. -/
def text (d : DType) : String :=
  if d.isBool ∧ d.isScalar then "bool"
  else if d.isHandle then d.code.name
  else d.code.name ++ d.bits.toNat.repr ++
    if 1 < d.lanes then "x" ++ d.lanes.toNat.repr else ""

instance : ToString DType := ⟨text⟩

/-! ### Reading -/

/-- A numeral of ASCII digits for a 16-bit number; one `+` may stand before it. -/
def readWord? (cs : List Char) : Option UInt16 :=
  let ds := match cs with
    | '+' :: r => r
    | r => r
  if ds ≠ [] ∧ ds.all Char.isDigit then
    let n := Nat.ofDigitChars 10 ds 0
    if n < UInt16.size then some (UInt16.ofNat n) else none
  else none

/-- The category that a lane type's text starts with, where a width must follow. -/
def sizedCode? (name : List Char) : Option TypeCode :=
  [TypeCode.int, .uint, .float].find? fun c => c.name.toList = name

/-- Category and width of a lane type's text. -/
def readElement? (cs : List Char) : Option (TypeCode × UInt16) :=
  if cs = "bool".toList then some (.uint, 1)
  else if cs = "handle".toList then some (.handle, 64)
  else
    let (name, digits) := cs.span fun c => !c.isDigit
    (sizedCode? name).bind fun code => (readWord? digits).map fun bits => (code, bits)

/-- The lane count that follows a lane type's text: none, or `x` and a numeral. -/
def readLanes? : List Char → Option UInt16
  | [] => some 1
  | _ :: cs => readWord? cs

/-- The type that a text names. It is cut at the first `x`. -/
def read? (cs : List Char) : Option DType :=
  let (head, tail) := cs.span (· != 'x')
  (readLanes? tail).bind fun lanes =>
    (readElement? head).bind fun (code, bits) =>
      let d : DType := ⟨code, bits, lanes⟩
      if d.Valid then some d else none

end DType

end Lanewise
