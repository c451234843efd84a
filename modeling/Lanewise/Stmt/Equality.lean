/-
# Structural equality of statements

Two statements are equal when they have the same form and equal parts; nothing
is said of their numbers.

Key definitions: `Stmt.equal`.
-/
import Lanewise.Stmt.Basic
import Lanewise.Expr.Equality

namespace Lanewise.Stmt

/-- The statements have one form and equal parts, bodies included. -/
def equal : Stmt → Stmt → Bool
  | evaluate _ e, evaluate _ e' => e.equal e'
  | letIn _ x e s, letIn _ x' e' s' => x.equal x' && e.equal e' && s.equal s'
  | annotate _ x k e s, annotate _ x' k' e' s' =>
    x.equal x' && k = k' && e.equal e' && s.equal s'
  | store _ x e i, store _ x' e' i' => x.equal x' && e.equal e' && i.equal i'
  | loop _ x a n k d s, loop _ x' a' n' k' d' s' =>
    x.equal x' && a.equal a' && n.equal n' && k = k' && d = d' && s.equal s'
  | _, _ => false

end Lanewise.Stmt
