/-
# Well-typed nodes

What every builder promises of the node it makes, read off the node and its
direct operands: which types a literal has, that the operands of an operator
have one type, and how the node's type follows from theirs. An expression is
well typed when all its nodes are, and a statement when its expressions are
and it binds variables only.

Key definitions: `Expr.Occurs`, `Expr.NodeTyped`, `Expr.WellTyped`, `Stmt.WellTyped`.
-/
import Lanewise.Proofs.DType
import Lanewise.Scalar
import Lanewise.Stmt.Basic

namespace Lanewise

namespace Expr

/-- `n` is a node of the expression: its root or a node of one of its operands. -/
inductive Occurs (n : Expr) : Expr → Prop
  | root : Occurs n n
  | operand {e x : Expr} (hx : x ∈ e.operands) (h : Occurs n x) : Occurs n e

theorem Occurs.of_mem {e x : Expr} (h : x ∈ e.operands) : Occurs x e := .operand h .root

theorem Occurs.trans {a b c : Expr} (hab : Occurs a b) (hbc : Occurs b c) : Occurs a c := by
  induction hbc with
  | root => exact hab
  | operand hx _ ih => exact .operand hx ih

theorem occurs_iff {n e : Expr} : Occurs n e ↔ n = e ∨ ∃ x ∈ e.operands, Occurs n x := by
  constructor
  · rintro (_ | ⟨hx, h⟩)
    · exact .inl rfl
    · exact .inr ⟨_, hx, h⟩
  · rintro (rfl | ⟨x, hx, h⟩)
    · exact .root
    · exact .operand hx h

/-- Induction from the operands to the node. -/
theorem operand_induction {motive : Expr → Prop}
    (step : ∀ e : Expr, (∀ x ∈ e.operands, motive x) → motive e) (e : Expr) : motive e := by
  induction e with
  | intImm | floatImm | stringImm | var => exact step _ fun _ h => (List.not_mem_nil h).elim
  | unary i op a ih => exact step _ (List.forall_mem_singleton.mpr ih)
  | cast i a ih => exact step _ (List.forall_mem_singleton.mpr ih)
  | broadcast i a ih => exact step _ (List.forall_mem_singleton.mpr ih)
  | binary i op a b iha ihb =>
    exact step _ (List.forall_mem_cons.mpr ⟨iha, List.forall_mem_singleton.mpr ihb⟩)
  | bitwise i op a b iha ihb =>
    exact step _ (List.forall_mem_cons.mpr ⟨iha, List.forall_mem_singleton.mpr ihb⟩)
  | call i name args ih => exact step _ ih

/-- The types of the node and of its operands fit together. -/
def NodeTyped : Expr → Prop
  | intImm i v => i.dtype.Valid ∧ i.dtype.isScalar ∧ i.dtype.isFloat = false ∧
      i.dtype.wrap v = v ∧ (i.dtype.isBool → v = 0 ∨ v = 1)
  | floatImm i _ => i.dtype.Valid ∧ i.dtype.isScalar ∧ i.dtype.isFloat
  | stringImm i _ => i.dtype = .handle
  | var i _ => i.dtype.Valid
  | unary i op a => i.dtype.Valid ∧ i.dtype = a.dtype ∧
      match op with
      | .not => a.dtype.isBool
      | .bitwiseNot => a.dtype.isIntegral
  | binary i op a b => i.dtype.Valid ∧ a.dtype = b.dtype ∧
      (op.isComparison → i.dtype = .bool a.lanes) ∧
      (op.isComparison = false → i.dtype = a.dtype ∧ a.dtype.isHandle = false) ∧
      (op.isLogical → a.dtype.isBool)
  | bitwise i _ a b => i.dtype.Valid ∧ a.dtype = i.dtype ∧ b.dtype = i.dtype ∧
      i.dtype.isIntegral
  | cast i a => i.dtype.Valid ∧ i.dtype.lanes = a.lanes ∧ i.dtype.element ≠ a.dtype.element
  | broadcast i a => i.dtype.Valid ∧ i.dtype.isVector ∧ a.dtype = i.dtype.element ∧
      a.dtype.isHandle = false
  | call i _ _ => i.dtype.Valid

theorem NodeTyped.valid {e : Expr} (h : e.NodeTyped) : e.dtype.Valid := by
  cases e with
  | stringImm i s =>
    have hd : (stringImm i s).dtype = .handle := h
    exact hd ▸ DType.handle_valid
  | var | call => exact h
  | intImm | floatImm | unary | binary | bitwise | cast | broadcast => exact h.1

/-- Every node of the expression is typed. -/
def WellTyped (e : Expr) : Prop := ∀ n, Occurs n e → n.NodeTyped

theorem WellTyped.node {e : Expr} (h : e.WellTyped) : e.NodeTyped := h e .root

theorem WellTyped.valid {e : Expr} (h : e.WellTyped) : e.dtype.Valid := h.node.valid

theorem WellTyped.operand {e x : Expr} (h : e.WellTyped) (hx : x ∈ e.operands) : x.WellTyped :=
  fun n hn => h n (.operand hx hn)

/-! ### Literals -/

/-- The literal of the value `v` with the head `i`, whose type is scalar. -/
def ofScalar (i : NodeInfo) (v : Scalar) : Expr :=
  if i.dtype.isFloat then .floatImm i v.toBinary64
  else if i.dtype.isBool then .intImm i (if v.isTruthy then 1 else 0)
  else .intImm i (i.dtype.wrap v.toInt64)

@[simp] theorem info_ofScalar (i : NodeInfo) (v : Scalar) : (ofScalar i v).info = i := by
  unfold ofScalar
  split
  · rfl
  · split <;> rfl

theorem operands_ofScalar (i : NodeInfo) (v : Scalar) : (ofScalar i v).operands = [] := by
  unfold ofScalar
  split
  · rfl
  · split <;> rfl

theorem ofScalar_typed {i : NodeInfo} (hv : i.dtype.Valid) (hs : i.dtype.isScalar) (v : Scalar) :
    (ofScalar i v).NodeTyped := by
  unfold ofScalar
  by_cases hf : i.dtype.isFloat
  · rw [if_pos hf]
    exact ⟨hv, hs, hf⟩
  · have hf' : i.dtype.isFloat = false := by simpa using hf
    rw [if_neg hf]
    by_cases hb : i.dtype.isBool
    · rw [if_pos hb]
      by_cases ht : v.isTruthy
      · exact ⟨hv, hs, hf', by simp [ht, DType.wrap, hb], fun _ => .inr (if_pos ht)⟩
      · exact ⟨hv, hs, hf', by simp [ht, DType.wrap, hb], fun _ => .inl (if_neg ht)⟩
    · rw [if_neg hb]
      exact ⟨hv, hs, hf', DType.wrap_wrap _ _, fun h => absurd h hb⟩

/-- A typed number is scalar. -/
theorem NodeTyped.isScalar_of_isLiteral {e : Expr} (h : e.NodeTyped) (hl : e.isLiteral) :
    e.dtype.isScalar := by
  cases e with
  | intImm | floatImm => exact h.2.1
  | stringImm | var | unary | binary | bitwise | cast | broadcast | call => cases hl

end Expr

/-! ### Statements -/

/-- The statement binds a variable where it binds at all, and its expressions
are well typed. -/
def Stmt.WellTyped : Stmt → Prop
  | .evaluate _ e => e.WellTyped
  | .letIn _ x e s => x.isVar ∧ x.WellTyped ∧ e.WellTyped ∧ s.WellTyped
  | .annotate _ x _ e s => x.WellTyped ∧ e.WellTyped ∧ s.WellTyped
  | .store _ x e i => x.isVar ∧ x.WellTyped ∧ e.WellTyped ∧ i.WellTyped
  | .loop _ x a n _ _ s => x.isVar ∧ x.WellTyped ∧ a.WellTyped ∧ n.WellTyped ∧ s.WellTyped

end Lanewise
