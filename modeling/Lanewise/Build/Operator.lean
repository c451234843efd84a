/-
# Operator nodes

A builder first asks for the type of its operands, which is where it can fail,
and then coerces both to it. Arithmetic takes no handles, logical operations
take booleans and bitwise ones integers; a comparison takes anything and gives
one truth value per lane.

Key definitions: `BinaryOp.operandType`, `Build.binary`, `BitwiseOp.operandType`, `Build.bitwise`.
-/
import Lanewise.Build.Coerce

namespace Lanewise

namespace BinaryOp

/-- Whether operands of the types `s` and `t` make sense to `op` at all. -/
def check (op : BinaryOp) (s t : DType) : Except BuildError Unit :=
  if !op.isComparison && (s.isHandle || t.isHandle) then
    .error (.dtypeMismatch op.name s (if s.isHandle then s else t))
  else if op.isLogical && !s.isBool then .error (.logicalOperand op.name s)
  else if op.isLogical && !t.isBool then .error (.logicalOperand op.name t)
  else .ok ()

/-- The one type of both operands. -/
def operandType (op : BinaryOp) (a b : Expr) : Except BuildError DType := do
  op.check a.dtype b.dtype
  Build.commonType op.name a b

/-- The type of a node with operands of the type `d`. -/
def resultType (op : BinaryOp) (d : DType) : DType :=
  if op.isComparison then .bool d.lanes else d

end BinaryOp

namespace BitwiseOp

/-- The one type of both operands, which is also the node's. -/
def operandType (op : BitwiseOp) (a b : Expr) : Except BuildError DType :=
  if !a.dtype.isIntegral then .error (.bitwiseOperand op.name a.dtype)
  else if !b.dtype.isIntegral then .error (.bitwiseOperand op.name b.dtype)
  else Build.commonType op.name a b

end BitwiseOp

namespace Build

/-- The node of `op` on the two operands, brought to one type. The type is settled before
any node is made, so a build that fails makes none. -/
def binary (op : BinaryOp) (a b : Expr) : BuildM Expr := do
  let d ← op.operandType a b
  let lhs ← coerce d a
  let rhs ← coerce d b
  return .binary (← fresh (op.resultType d)) op lhs rhs

/-- The node of `op` on two integers, brought to one type in the same way. -/
def bitwise (op : BitwiseOp) (a b : Expr) : BuildM Expr := do
  let d ← op.operandType a b
  let lhs ← coerce d a
  let rhs ← coerce d b
  return .bitwise (← fresh d) op lhs rhs

/-! ### One operand -/

/-- The bitwise complement of an integer. -/
def bitwiseNot (x : Expr) : BuildM Expr := do
  if !x.dtype.isIntegral then throw (.complementOperand x.dtype)
  else return .unary (← fresh x.dtype) .bitwiseNot x

/-- The negation of a truth value. -/
def logicalNot (x : Expr) : BuildM Expr := do
  if !x.dtype.isBool then throw (.logicalOperand "not" x.dtype)
  else return .unary (← fresh x.dtype) .not x

/-- The negative of a number: its product with -1. -/
def neg (x : Expr) : BuildM Expr := do
  binary .mul x (← literal (.int64 (-1)) x.dtype.element)

/-! ### Conditions -/

/-- `op` over the conditions from the left; one condition is its own result. -/
def combine (name : String) (op : BinaryOp) : List Expr → BuildM Expr
  | [] => throw (.noConditions name)
  | e :: es => es.foldlM (binary op) e

/-- All conditions hold. -/
def all (conditions : List Expr) : BuildM Expr := combine "all" .and conditions

/-- One of the conditions holds. -/
def any (conditions : List Expr) : BuildM Expr := combine "any" .or conditions

end Build

end Lanewise
