/-
# Intrinsic calls

A call names an intrinsic, which is taken on trust with its result type. The
test for NaN is built in: it is decided for integers and float literals, and
its call takes floats of at least 32 bits.

Key definitions: `Build.call`, `Build.isnan`.
-/
import Lanewise.Build.Cast

namespace Lanewise.Build

/-- The intrinsic `name` on `args`, with a result of the type `d`. -/
def call (name : String) (args : List Expr) (d : DType) : NodeM Expr :=
  return .call (← fresh d) name args

/-- Whether `x` is NaN, lane by lane. -/
def isnan (x : Expr) : BuildM Expr := do
  let d := x.dtype
  let result := DType.bool d.lanes
  match d.code with
  | .int | .uint =>
    journal (.integerNaN d)
    constantOf (.bool false) result
  | .float =>
    match x.floatValue? with
    | some v =>
      journal (.literalNaN v)
      constantOf (.bool v.isNaN) result
    | none =>
      let arg ← if d.bits < 32 then cast x ((DType.float 32).withLanes d.lanes) else pure x
      call "isnan" [arg] result
  | .handle => throw (.intrinsicOperand "isnan" d)

end Lanewise.Build
