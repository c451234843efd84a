/-
# Truth of an expression

Comparing two expressions builds a node, so an expression has a truth value
only where its form decides one. A node compared with itself is equal to
itself; of two different nodes nothing is known, and either question about them
is answered by false. A literal is true unless it is zero.

Key definitions: `Expr.truth?`, `Expr.truth`.
-/
import Lanewise.Expr.Basic
import Lanewise.Error

namespace Lanewise.Expr

/-- The truth value, where the node's form decides it. -/
def truth? : Expr → Option Bool
  | binary _ .eq a b => some (a.sameNode b)
  | binary _ .ne _ _ => some false
  | intImm _ v => some (v ≠ 0)
  | _ => none

/-- The truth value, or an error that names the form. -/
def truth (e : Expr) : Except BuildError Bool :=
  match e.truth? with
  | some b => .ok b
  | none => .error (.ambiguousTruth ("bool(" ++ e.form ++ ")"))

/-- One of two operands chosen by the truth of the first: there is no such choice
between expressions, and `Build.all` and `Build.any` build the node instead. -/
def andThen (_a _b : Expr) : Except BuildError Expr := .error (.ambiguousTruth "and")

@[inherit_doc andThen]
def orElse (_a _b : Expr) : Except BuildError Expr := .error (.ambiguousTruth "or")

end Lanewise.Expr
