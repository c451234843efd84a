/-
# Literals, variables and broadcasts

Key definitions: `Build.literal`, `Build.constant`, `Build.constantOf`, `Build.broadcast`.
-/
import Lanewise.Build.Session
import Lanewise.DType.Checked
import Lanewise.Scalar

namespace Lanewise.Build

/-! ### Literals -/

/-- A literal of the scalar type `d`. A boolean keeps whether the value is zero,
any other type that is no float the integer that fits its width. -/
def literal (v : Scalar) (d : DType) : NodeM Expr := do
  let info ← fresh d
  return if d.isFloat then .floatImm info v.toBinary64
    else if d.isBool then .intImm info (if v.isTruthy then 1 else 0)
    else .intImm info (d.wrap v.toInt64)

/-- A literal of the value's own type. -/
def constant (v : Scalar) : NodeM Expr := literal v v.dtype

/-- A literal of the type `d`; over several lanes it is repeated. -/
def constantOf (v : Scalar) (d : DType) : NodeM Expr := do
  let x ← literal v d.element
  if d.isScalar then return x else return .broadcast (← fresh d) x

/-! ### Names and strings -/

/-- A new variable of the type `d`, which is not the other variables of its name. -/
def varOf (name : String) (d : DType) : NodeM Expr := return .var (← fresh d) name

/-- A variable of the default type. -/
def var (name : String) : NodeM Expr := varOf name (.int 32)

/-- A string, which is a handle. -/
def stringImm (value : String) : NodeM Expr := return .stringImm (← fresh .handle) value

/-! ### Broadcasts -/

/-- The scalar `x` in each of `lanes` lanes. -/
def broadcast (x : Expr) (lanes : UInt16) : BuildM Expr := do
  let d := x.dtype
  if !d.isScalar || d.isHandle || lanes = 0 then
    throw (.dtypeMismatch "broadcast" d (d.withLanes lanes))
  else if lanes = 1 then return x
  else return .broadcast (← fresh (d.withLanes lanes)) x

end Lanewise.Build
