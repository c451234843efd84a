/-
# Explicit conversion

A cast changes the lane type and may spread a scalar over lanes; it never
changes the lane count of a vector. Casting to a node's own type is no node at
all, and a literal is converted on the spot.

Key definitions: `Build.cast`.
-/
import Lanewise.Build.Coerce

namespace Lanewise.Build

/-- `x` with lanes of the type `element`, as many as it has. -/
def castElement (element : DType) (x : Expr) : NodeM Expr :=
  if x.dtype.element = element then return x
  else match x.folds? element with
    | some v => do
      journal (.foldedCast x.dtype element)
      literal v element
    | none => return .cast (← fresh (element.withLanes x.lanes)) x

/-- `x` as a value of the type `d`. -/
def cast (x : Expr) (d : DType) : BuildM Expr := do
  if x.dtype = d then return x
  else if x.dtype.isVector && x.lanes ≠ d.lanes then throw (.dtypeMismatch "cast" x.dtype d)
  else
    let y ← castElement d.element x
    if y.lanes = d.lanes then return y else return .broadcast (← fresh d) y

end Lanewise.Build
