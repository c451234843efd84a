/-
# Structural equality

Two expressions are equal when they have the same shape, the same types and the
same leaves. A variable is equal only to itself, and numbers are compared as
numbers, so that NaN is not equal to another NaN; but a node is always equal to
itself.

Key definitions: `Expr.equal`.
Key theorems: `Expr.equal_of_sameNode`.
-/
import Lanewise.Expr.Basic

namespace Lanewise.Expr

mutual

/-- The expressions are the same node, or nodes of one form and type with equal parts. There is
no case for variables, which are equal as the same node only. -/
def equal (a b : Expr) : Bool :=
  a.sameNode b || match a, b with
    | intImm i v, intImm j w => i.dtype = j.dtype && v = w
    | floatImm i x, floatImm j y => i.dtype = j.dtype && x.numEq y
    | stringImm i s, stringImm j t => i.dtype = j.dtype && s = t
    | unary i f x, unary j g y => i.dtype = j.dtype && f = g && x.equal y
    | binary i f x y, binary j g z w => i.dtype = j.dtype && f = g && x.equal z && y.equal w
    | bitwise i f x y, bitwise j g z w => i.dtype = j.dtype && f = g && x.equal z && y.equal w
    | cast i x, cast j y => i.dtype = j.dtype && x.equal y
    | broadcast i x, broadcast j y => i.dtype = j.dtype && x.equal y
    | call i f xs, call j g ys => i.dtype = j.dtype && f = g && equalAll xs ys
    | _, _ => false

/-- The lists are as long as each other and equal place by place. -/
def equalAll : List Expr → List Expr → Bool
  | [], [] => true
  | x :: xs, y :: ys => x.equal y && equalAll xs ys
  | _, _ => false

end

/-- A node and its copy are equal, whatever it holds. -/
theorem equal_of_sameNode {a b : Expr} (h : a.sameNode b) : a.equal b := by
  unfold equal
  simp [h]

end Lanewise.Expr
