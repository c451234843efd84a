/-
# Equality node by node

Two expressions are equal when they are one node, or when the nodes are alike
(same form, same type, same leaf) and so are the operands, one by one. Facts
about equality are proved from the operands up by this equation.

Key definitions: `Expr.alike`.
Key theorems: `Expr.equal_eq`, `Expr.form_cases`, `Expr.dtype_eq_of_equal`.
-/
import Lanewise.Expr.Equality
import Lanewise.Proofs.Reconcile

namespace Lanewise.Expr

variable {a b x x' y y' : Expr}

/-! ### Nodes of one form -/

/-- Two nodes of one form, form by form. -/
@[elab_as_elim]
theorem form_cases {motive : (a b : Expr) → a.form = b.form → Prop}
    (intImm : ∀ i v j w, motive (.intImm i v) (.intImm j w) rfl)
    (floatImm : ∀ i x j y, motive (.floatImm i x) (.floatImm j y) rfl)
    (stringImm : ∀ i s j t, motive (.stringImm i s) (.stringImm j t) rfl)
    (var : ∀ i s j t, motive (.var i s) (.var j t) rfl)
    (unary : ∀ i f x j g y, motive (.unary i f x) (.unary j g y) rfl)
    (binary : ∀ i f x x' j g y y', motive (.binary i f x x') (.binary j g y y') rfl)
    (bitwise : ∀ i f x x' j g y y', motive (.bitwise i f x x') (.bitwise j g y y') rfl)
    (cast : ∀ i x j y, motive (.cast i x) (.cast j y) rfl)
    (broadcast : ∀ i x j y, motive (.broadcast i x) (.broadcast j y) rfl)
    (call : ∀ i s xs j t ys, motive (.call i s xs) (.call j t ys) rfl)
    (a b : Expr) (h : a.form = b.form) : motive a b h := by
  cases a <;> cases b <;> first | (simp [form] at h; done) | skip
  · exact intImm ..
  · exact floatImm ..
  · exact stringImm ..
  · exact var ..
  · exact unary ..
  · exact binary ..
  · exact bitwise ..
  · exact cast ..
  · exact broadcast ..
  · exact call ..

/-- The nodes are the same but for their operands. Two variables are not. -/
def alike : Expr → Expr → Bool
  | intImm i v, intImm j w => i.dtype = j.dtype && v = w
  | floatImm i x, floatImm j y => i.dtype = j.dtype && x.numEq y
  | stringImm i s, stringImm j t => i.dtype = j.dtype && s = t
  | unary i f _, unary j g _ => i.dtype = j.dtype && f = g
  | binary i f _ _, binary j g _ _ => i.dtype = j.dtype && f = g
  | bitwise i f _ _, bitwise j g _ _ => i.dtype = j.dtype && f = g
  | cast i _, cast j _ => i.dtype = j.dtype
  | broadcast i _, broadcast j _ => i.dtype = j.dtype
  | call i f _, call j g _ => i.dtype = j.dtype && f = g
  | _, _ => false

theorem form_eq_of_alike (h : a.alike b) : a.form = b.form := by
  unfold alike at h
  split at h <;> first | rfl | cases h

theorem dtype_eq_of_alike (h : a.alike b) : a.dtype = b.dtype := by
  have hform := form_eq_of_alike h
  cases a, b, hform using form_cases <;> simp_all [alike, dtype, info]

/-- Equality, one node at a time. -/
theorem equal_eq (a b : Expr) :
    a.equal b = (a.sameNode b || a.alike b && equalAll a.operands b.operands) := by
  by_cases hform : a.form = b.form
  · cases a, b, hform using form_cases <;> simp [equal, alike, equalAll, operands, Bool.and_assoc]
  · have halike : a.alike b = false := by
      rw [Bool.eq_false_iff]
      exact fun h => hform (form_eq_of_alike h)
    rw [halike, Bool.false_and, Bool.or_false]
    unfold equal
    split <;> first | exact absurd rfl hform | exact Bool.or_false _

theorem equal_of_alike (h : a.alike b) (hops : equalAll a.operands b.operands) : a.equal b := by
  rw [equal_eq, h, hops]
  simp

/-- Nodes of different types are never equal. -/
theorem dtype_eq_of_equal (hco : a.sameNode b → a = b) (h : a.equal b) : a.dtype = b.dtype := by
  rw [equal_eq, Bool.or_eq_true, Bool.and_eq_true] at h
  rcases h with h | ⟨h, -⟩
  · rw [hco h]
  · exact dtype_eq_of_alike h

/-! ### Equal nodes -/

theorem equal_self (e : Expr) : e.equal e := equal_of_sameNode (by simp [sameNode])

theorem cast_equal {i j : NodeInfo} (h : i.dtype = j.dtype) (hx : x.equal x') :
    (cast i x).equal (cast j x') := by
  simp [equal, h, hx]

theorem broadcast_equal {i j : NodeInfo} (h : i.dtype = j.dtype) (hx : x.equal x') :
    (broadcast i x).equal (broadcast j x') := by
  simp [equal, h, hx]

theorem node_equal {op : Operator} {i j : NodeInfo}
    (h : i.dtype = j.dtype) (hx : x.equal x') (hy : y.equal y') :
    (op.node i x y).equal (op.node j x' y') := by
  cases op <;> simp [Operator.node, equal, h, hx, hy]

/-! ### Lists -/

/-- Lists are equal place by place, when what makes places equal is known. -/
theorem equalAll_of_map_eq {β : Type} {f : Expr → β} {xs ys : List Expr}
    (h : ∀ x ∈ xs, ∀ y ∈ ys, f x = f y → x.equal y) (hmap : xs.map f = ys.map f) :
    equalAll xs ys := by
  induction xs generalizing ys with
  | nil =>
    cases ys with
    | nil => rfl
    | cons y ys => simp at hmap
  | cons x xs ih =>
    cases ys with
    | nil => simp at hmap
    | cons y ys =>
      obtain ⟨hxy, htail⟩ := List.cons.inj hmap
      have hhead : x.equal y := h x List.mem_cons_self y List.mem_cons_self hxy
      have hall : equalAll xs ys := ih (fun x hx y hy =>
        h x (List.mem_cons_of_mem _ hx) y (List.mem_cons_of_mem _ hy)) htail
      simp [equalAll, hhead, hall]

theorem map_eq_of_equalAll {β : Type} {f : Expr → β} {xs ys : List Expr}
    (h : ∀ x ∈ xs, ∀ y ∈ ys, x.equal y → f x = f y) (he : equalAll xs ys) :
    xs.map f = ys.map f := by
  induction xs generalizing ys with
  | nil =>
    cases ys with
    | nil => rfl
    | cons y ys => simp [equalAll] at he
  | cons x xs ih =>
    cases ys with
    | nil => simp [equalAll] at he
    | cons y ys =>
      rw [equalAll, Bool.and_eq_true] at he
      have hhead : f x = f y := h x List.mem_cons_self y List.mem_cons_self he.1
      have htail : xs.map f = ys.map f := ih (fun x hx y hy =>
        h x (List.mem_cons_of_mem _ hx) y (List.mem_cons_of_mem _ hy)) he.2
      rw [List.map_cons, List.map_cons, hhead, htail]

end Lanewise.Expr
