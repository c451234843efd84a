/-
# Failures

Why a type, a node or a field could not be had. Each cause is a constructor
that carries the types and names involved; `BuildError.message` is its wording
and `BuildError.kind` what a caller tells apart.

Key definitions: `BuildError`, `BuildError.message`, `BuildError.kind`.
-/
import Lanewise.DType.Text

namespace Lanewise

/-- Why a call failed, with the types and names that it failed on. -/
inductive BuildError where
  /-- Two types that the operation `op` cannot bring together. -/
  | dtypeMismatch (op : String) (lhs rhs : DType)
  /-- An operand of the bitwise operation `op` is no integer. -/
  | bitwiseOperand (op : String) (dtype : DType)
  /-- The operand of a bitwise complement is no integer. -/
  | complementOperand (dtype : DType)
  /-- An operand of the logical operation `op` is no boolean. -/
  | logicalOperand (op : String) (dtype : DType)
  /-- The intrinsic `name` has no meaning on the type. -/
  | intrinsicOperand (name : String) (dtype : DType)
  /-- A node was asked for a truth value that it does not have. -/
  | ambiguousTruth (op : String)
  /-- A combinator of conditions was given none. -/
  | noConditions (combinator : String)
  /-- The kind of node has no field of that name. -/
  | unknownField (node field : String)
  /-- The field of a statement binds a name and so takes only variables. -/
  | notVariable (node field : String)
  /-- No type has this category, width and lane count. -/
  | unsupportedType (code : TypeCode) (bits lanes : UInt16)
  /-- The text names no type. -/
  | unreadableType (text : String)
deriving DecidableEq, Repr

namespace BuildError

/-- The wording for what is no type. -/
private def invalidType (shown : String) : String :=
  "invalid dtype '" ++ shown ++ "'"

/-- The wording of a failure. -/
def message : BuildError → String
  | dtypeMismatch op lhs rhs =>
    "DTypeMismatch: cannot combine " ++ lhs.text ++ " and " ++ rhs.text ++ " in " ++ op
  | bitwiseOperand op dtype =>
    "TypeError: bitwise op on non-integer dtype " ++ dtype.text ++ " in " ++ op
  | complementOperand dtype =>
    "RuntimeError: bitwise_not requires an integer operand, got " ++ dtype.text
  | logicalOperand op dtype =>
    "TypeError: " ++ op ++ " requires boolean operands, got " ++ dtype.text
  | intrinsicOperand name dtype =>
    "TypeError: intrinsic " ++ name ++ " does not accept " ++ dtype.text
  | ambiguousTruth op =>
    "ValueError: ambiguous boolean combination (" ++ op ++
      "); use logical_and/logical_or, all or any"
  | noConditions combinator =>
    "ValueError: empty logical combinator " ++ combinator ++ "()"
  | unknownField node field =>
    "AttributeError: " ++ node ++ " has no attribute '" ++ field ++ "'"
  | notVariable node field =>
    "TypeError: " ++ field ++ " of " ++ node ++ " must be a Var"
  | unsupportedType code bits lanes =>
    invalidType (code.label ++ " with " ++ bits.toNat.repr ++ " bits and " ++
      lanes.toNat.repr ++ " lanes")
  | unreadableType text => invalidType text

instance : ToString BuildError := ⟨message⟩

/-- A cause without the types and names involved. -/
inductive Kind where
  | dtypeMismatch
  | bitwiseOperand
  | complementOperand
  | logicalOperand
  | intrinsicOperand
  | ambiguousTruth
  | noConditions
  | unknownField
  | notVariable
  /-- No such type, by its parts or by its text. -/
  | noType
deriving DecidableEq, Repr

/-- The cause of a failure, by which callers tell failures apart. -/
def kind : BuildError → Kind
  | dtypeMismatch .. => .dtypeMismatch
  | bitwiseOperand .. => .bitwiseOperand
  | complementOperand .. => .complementOperand
  | logicalOperand .. => .logicalOperand
  | intrinsicOperand .. => .intrinsicOperand
  | ambiguousTruth .. => .ambiguousTruth
  | noConditions .. => .noConditions
  | unknownField .. => .unknownField
  | notVariable .. => .notVariable
  | unsupportedType .. | unreadableType .. => .noType

end BuildError

end Lanewise
