/-
# Operands of one type

The operands of a binary node have one type, that of the left or of the right
one. `commonType` chooses it and `coerce` brings an operand to it: a literal is
written anew, anything else is cast, and a scalar next to a vector is repeated.

Key definitions: `Expr.adapts?`, `Build.commonType`, `Build.coerce`.
-/
import Lanewise.Build.Leaf

namespace Lanewise

namespace Expr

/-- The number that a literal shows. -/
def number? : Expr → Option Scalar
  | intImm _ v => some (.int64 v)
  | floatImm _ x => some (.float64 x)
  | _ => none

/-- The number to write instead of a cast of `e` to the lane type `element`. -/
def folds? (e : Expr) (element : DType) : Option Scalar :=
  if element.isHandle then none else e.number?

/-- The number to write when the scalar literal `e` stands where the lane type
`element` is asked for. A float does not silently become an integer. -/
def adapts? (e : Expr) (element : DType) : Option Scalar :=
  if e.dtype.isScalar then
    (e.folds? element).filter fun v => !v.isFloat || element.isFloat
  else none

end Expr

namespace Build

/-- The type to which the operation `op` brings both operands. A vector decides
for a scalar; of equally many lanes a literal follows the other operand, the
right one first, and the rest is promotion. -/
def commonType (op : String) (a b : Expr) : Except BuildError DType :=
  let s := a.dtype
  let t := b.dtype
  if s.lanes ≠ t.lanes then
    if s.isHandle || t.isHandle then .error (.dtypeMismatch op s t) else DType.promote op s t
  else if (b.adapts? s.element).isSome then .ok s
  else if (a.adapts? t.element).isSome then .ok t
  else DType.promote op s t

/-- `e` with lanes of the type `element`. -/
def coerceElement (element : DType) (e : Expr) : NodeM Expr :=
  if e.dtype.element = element then return e
  else match e.adapts? element with
    | some v => literal v element
    | none => do
      journal (.implicitCast e.dtype element)
      return .cast (← fresh (element.withLanes e.lanes)) e

/-- `e` over `lanes` lanes. -/
def coerceLanes (lanes : UInt16) (e : Expr) : NodeM Expr :=
  if e.lanes = lanes then return e
  else do
    journal (.implicitBroadcast e.dtype lanes)
    return .broadcast (← fresh (e.dtype.withLanes lanes)) e

/-- `e` as an operand of the type `d`. -/
def coerce (d : DType) (e : Expr) : NodeM Expr := do
  coerceLanes d.lanes (← coerceElement d.element e)

end Build

end Lanewise
