/-
# Truth follows identity

A question of equality has a truth value as soon as it is built, and the value is
read off the children: whether they are one node. The children need not be what the
caller compared, since operands are coerced. But a child is its operand or a new
node, at least one of the two is its operand, and one node compared with itself is
not coerced at all. So the children are one node just when the operands are
(`Operator.sameNode_children`), for every operator. No other builder makes such a
question: what it makes is a literal, is without a truth value or was given to it
(`Request.endsWith_plain`).

Key definitions: `Expr.asksIdentity`, `Build.EndsWith`.
Key theorems: `Operator.sameNode_children`, `Request.endsWith_plain`, `truth_by_identity`.
-/
import Lanewise.Expr.Truth
import Lanewise.Proofs.CoercionTrace
import Lanewise.Proofs.Handles

namespace Lanewise

/-! ### Children and operands -/

variable {n : Nat} {d element : DType} {e x y : Expr}

theorem Retyping.Makes.eq_or_new {r : Retyping} (h : r.Makes n element e y) :
    y = e ∨ n ≤ y.nodeId := by
  cases r with
  | kept => exact .inl h
  | rewritten =>
    obtain ⟨i, v, hi, -, -, -, rfl⟩ := h
    rw [Expr.nodeId, Expr.info_ofScalar]
    exact .inr hi
  | cast =>
    obtain ⟨i, hi, -, rfl⟩ := h
    exact .inr hi

/-- A child is its operand or a new node. -/
theorem Conversion.Makes.eq_or_new {c : Conversion} (h : c.Makes n d e x) :
    x = e ∨ n ≤ x.nodeId := by
  obtain ⟨r, rep⟩ := c
  obtain ⟨y, hy, hx⟩ := h
  cases rep with
  | false =>
    obtain rfl : x = y := hx
    exact hy.eq_or_new
  | true =>
    obtain ⟨i, hi, -, rfl⟩ := hx
    exact .inr hi

namespace Operator

open Build

variable {op : Operator} {a b r : Expr} {s s' : Session} {P : Set Expr}

/-- Children of an operator are one node just when its operands are. -/
theorem sameNode_children (hP : Inventory s P) (ha : a ∈ P) (hb : b ∈ P)
    (h : Yields (op.build a b) s r s') :
    ∃ i lhs rhs, r = op.node i lhs rhs ∧ lhs.sameNode rhs = a.sameNode b := by
  obtain ⟨d, lhs, rhs, s₁, s₂, hd, hl, hr, hnode, -⟩ := build_steps h
  refine ⟨_, lhs, rhs, hnode, ?_⟩
  obtain ⟨hside, hfa, hfb⟩ := fits_of_commonType (operandType_eq_ok_iff.mp hd).2
  by_cases hsame : a.nodeId = b.nodeId
  · -- one node has the type that both are brought to
    obtain rfl : a = b := hP.coherent a ha b hb hsame
    have hda : a.dtype = d := (hside.elim id id).symm
    rw [eq_of_coerce hda hl, eq_of_coerce hda hr]
  · have hida : a.nodeId < s.next := hP.numbered a ha
    have hidb : b.nodeId < s.next := hP.numbered b hb
    obtain ⟨c, hc, -, hs₁⟩ := coerce_trace hfa hl
    obtain ⟨c', hc', -, -⟩ := coerce_trace hfb hr
    have hne : lhs.nodeId ≠ rhs.nodeId := by
      rcases hside with hda | hdb
      · rw [eq_of_coerce hda.symm hl]
        rcases hc'.eq_or_new with rfl | hnew
        · exact hsame
        · omega
      · rw [eq_of_coerce hdb.symm hr]
        rcases hc.eq_or_new with rfl | hnew
        · exact hsame
        · omega
    exact (decide_eq_false hne).trans (decide_eq_false hsame).symm

end Operator

/-! ### Questions of identity -/

namespace Expr

/-- The truth of the node is about the identity of its children. -/
def asksIdentity : Expr → Bool
  | binary _ .eq _ _ | binary _ .ne _ _ => true
  | _ => false

/-- Any other node has the truth value of a literal or none. -/
theorem truth?_of_plain (h : e.asksIdentity = false) :
    e.truth? = none ∨ ∃ i v, e = .intImm i v ∧ e.truth? = some (decide (v ≠ 0)) := by
  cases e with
  | intImm i v => exact .inr ⟨i, v, rfl, rfl⟩
  | binary i op a b =>
    cases op with
    | eq | ne => cases h
    | _ => exact .inl rfl
  | floatImm | stringImm | var | unary | bitwise | cast | broadcast | call => exact .inl rfl

theorem asksIdentity_ofScalar (i : NodeInfo) (v : Scalar) :
    (ofScalar i v).asksIdentity = false := by
  unfold ofScalar
  split
  · rfl
  · split <;> rfl

end Expr

namespace Operator

/-- The operator asks whether its operands are equal, or whether they are not. -/
def asksIdentity : Operator → Bool
  | binary .eq | binary .ne => true
  | _ => false

theorem asksIdentity_node (op : Operator) (i : NodeInfo) (a b : Expr) :
    (op.node i a b).asksIdentity = op.asksIdentity := by
  cases op with
  | binary f => cases f <;> rfl
  | bitwise f => rfl

end Operator

/-! ### What builds end with -/

namespace Build

/-- Whatever the build gives has the property `post`. -/
def EndsWith {α : Type} (f : BuildM α) (post : α → Prop) : Prop :=
  ∀ s r s', Yields f s r s' → post r

variable {α β : Type} {f : BuildM α} {pre : α → Prop} {post : β → Prop} {es : List Expr}

theorem EndsWith.pure {b : β} (h : post b) : EndsWith (Pure.pure b) post := by
  intro s r s' hr
  cases hr
  exact h

theorem EndsWith.throw (err : BuildError) : EndsWith (MonadExcept.throw err) post :=
  fun _ _ _ h => by cases h

theorem EndsWith.any (f : BuildM α) : EndsWith f fun _ => True := fun _ _ _ _ => trivial

theorem EndsWith.bind {g : α → BuildM β} (hf : EndsWith f pre)
    (hg : ∀ a, pre a → EndsWith (g a) post) : EndsWith (f >>= g) post := by
  intro s r s' h
  obtain ⟨a, s₁, ha, hr⟩ := yields_bind.mp h
  exact hg a (hf s a s₁ ha) s₁ r s' hr

theorem EndsWith.ite {c : Prop} [Decidable c] {g g' : BuildM β} (h : EndsWith g post)
    (h' : EndsWith g' post) : EndsWith (if c then g else g') post := by
  split
  · exact h
  · exact h'

theorem EndsWith.node {mk : NodeInfo → Expr} {post : Expr → Prop} (d : DType)
    (h : ∀ i, post (mk i)) : EndsWith (do return mk (← fresh d)) post := by
  intro s r s' hr
  cases hr
  exact h _

/-! What builders end with: nothing that asks for identity, or what they were given. -/

open Lanewise.Expr

variable {f : BinaryOp} {op : Operator} {element : DType}

theorem literal_endsWith (v : Scalar) (d : DType) :
    EndsWith (liftM (literal v d)) (·.asksIdentity = false) := by
  intro s r s' hr
  rw [gives_literal (yields_lift.mp hr)]
  exact asksIdentity_ofScalar _ v

theorem constantOf_endsWith (v : Scalar) (d : DType) :
    EndsWith (liftM (constantOf v d)) (·.asksIdentity = false) := by
  intro s r s' hr
  obtain ⟨y, s₁, hy, hr⟩ := gives_bind.mp (yields_lift.mp hr)
  split at hr
  · obtain ⟨rfl, -⟩ := gives_pure.mp hr
    exact literal_endsWith v d.element s r s₁ (yields_lift.mpr hy)
  · rw [gives_node hr]
    rfl

theorem broadcast_endsWith (x : Expr) (n : UInt16) :
    EndsWith (broadcast x n) fun r => r.asksIdentity = false ∨ r = x :=
  .ite (.throw _) (.ite (.pure (.inr rfl)) (.node _ fun _ => .inl rfl))

theorem bitwiseNot_endsWith (x : Expr) : EndsWith (bitwiseNot x) (·.asksIdentity = false) :=
  .ite (.throw _) (.node _ fun _ => rfl)

theorem logicalNot_endsWith (x : Expr) : EndsWith (logicalNot x) (·.asksIdentity = false) :=
  .ite (.throw _) (.node _ fun _ => rfl)

theorem operator_endsWith (h : op.asksIdentity = false) (a b : Expr) :
    EndsWith (op.build a b) (·.asksIdentity = false) := by
  intro s r s' hr
  obtain ⟨d, lhs, rhs, i, -, -, -, -, -, -, rfl⟩ := op.build_yields hr
  exact (op.asksIdentity_node i lhs rhs).trans h

theorem castElement_endsWith (x : Expr) (element : DType) :
    EndsWith (liftM (castElement element x)) fun r => r.asksIdentity = false ∨ r = x := by
  intro s r s' hr
  cases castElement_converted (yields_lift.mp hr) with
  | same => exact .inr rfl
  | literal i v => exact .inl (asksIdentity_ofScalar i v)
  | cast => exact .inl rfl

theorem cast_endsWith (x : Expr) (d : DType) :
    EndsWith (cast x d) fun r => r.asksIdentity = false ∨ r = x := by
  refine .ite (.pure (.inr rfl)) (.ite (.throw _) ?_)
  exact (castElement_endsWith x d.element).bind fun y hy =>
    .ite (.pure hy) (.node d fun _ => .inl rfl)

/-- Conditions are combined by nodes that ask for nothing, after the first one. -/
theorem fold_endsWith (hf : (Operator.binary f).asksIdentity = false) (es : List Expr) (e : Expr) :
    EndsWith (es.foldlM (binary f) e) fun r => r.asksIdentity = false ∨ r = e := by
  induction es generalizing e with
  | nil => exact .pure (.inr rfl)
  | cons x xs ih =>
    rw [List.foldlM_cons]
    refine (operator_endsWith hf e x).bind fun l hl s r s' hr => .inl ?_
    rcases ih l s r s' hr with hr | rfl
    · exact hr
    · exact hl

theorem combine_endsWith (name : String) (hf : (Operator.binary f).asksIdentity = false)
    (es : List Expr) : EndsWith (combine name f es) fun r => r.asksIdentity = false ∨ r ∈ es := by
  cases es with
  | nil => exact .throw _
  | cons e es =>
    intro s r s' hr
    rcases fold_endsWith hf es e s r s' hr with hr | rfl
    · exact .inl hr
    · exact .inr List.mem_cons_self

theorem isnan_endsWith (x : Expr) : EndsWith (isnan x) (·.asksIdentity = false) := by
  simp only [isnan]
  cases x.dtype.code with
  | int | uint => exact (EndsWith.any _).bind fun _ _ => constantOf_endsWith _ _
  | handle => exact .throw _
  | float =>
    cases x.floatValue? with
    | some v => exact (EndsWith.any _).bind fun _ _ => constantOf_endsWith _ _
    | none =>
      have hcall : ∀ arg, EndsWith (liftM (call "isnan" [arg] (.bool x.dtype.lanes)))
          (·.asksIdentity = false) := fun arg s r s' hr => by
        rw [gives_node (yields_lift.mp hr)]
        rfl
      exact .ite ((EndsWith.any _).bind fun arg _ => hcall arg) (hcall x)

end Build

namespace Request

/-- The call is a question of equality. -/
def asksIdentity : Request → Bool
  | operate op _ _ => op.asksIdentity
  | _ => false

/-- Only a question of equality gives a node that asks for identity, unless the
call was given that node. -/
theorem endsWith_plain (req : Request) (h : req.asksIdentity = false) :
    Build.EndsWith req.build fun r => r.asksIdentity = false ∨ r ∈ req.operands := by
  intro s r s' hr
  cases req with
  | constant v => exact .inl (Build.literal_endsWith v v.dtype s r s' hr)
  | constantOf v d => exact .inl (Build.constantOf_endsWith v d s r s' hr)
  | var | varOf | stringImm | call =>
    cases hr
    exact .inl rfl
  | broadcast x n => exact (Build.broadcast_endsWith x n s r s' hr).imp_right List.mem_singleton.mpr
  | operate op a b => exact .inl (Build.operator_endsWith h a b s r s' hr)
  | bitwiseNot x => exact .inl (Build.bitwiseNot_endsWith x s r s' hr)
  | logicalNot x => exact .inl (Build.logicalNot_endsWith x s r s' hr)
  | neg x =>
    obtain ⟨m, s₁, -, hr⟩ := Build.yields_bind.mp hr
    have hmul : (Operator.binary .mul).asksIdentity = false := rfl
    exact .inl (Build.operator_endsWith hmul x m s₁ r s' hr)
  | cast x d => exact (Build.cast_endsWith x d s r s' hr).imp_right List.mem_singleton.mpr
  | all es => exact Build.combine_endsWith "all" rfl es s r s' hr
  | any es => exact Build.combine_endsWith "any" rfl es s r s' hr
  | isnan x => exact .inl (Build.isnan_endsWith x s r s' hr)

end Request

open Build

/-- **Truth follows identity.** Two expressions of a run that are compared for
equality are found equal just when they are one node, and never found unequal; any
comparison of a node with itself goes through. The other builders give what has no
truth value, a literal, which is true unless it is zero, or one of their operands.
What is behind this: operators neither make one node of two operands nor two nodes
of one. -/
theorem truth_by_identity {w : World} (h : Reachable w) {a b : Expr} (ha : w.Has a)
    (hb : w.Has b) :
    (∀ r s', Yields (Build.binary .eq a b) w.session r s' → r.truth? = some (a.sameNode b)) ∧
    (∀ r s', Yields (Build.binary .ne a b) w.session r s' → r.truth? = some false) ∧
    (∀ op : Operator, op.isComparison → ∀ s, ∃ r s', Yields (op.build a a) s r s') ∧
    (∀ req : Request, req.asksIdentity = false → ∀ s r s', Yields req.build s r s' →
      r.truth? = none ∨ (∃ i v, r = .intImm i v ∧ r.truth? = some (decide (v ≠ 0))) ∨
        r ∈ req.operands) ∧
    ∀ (op : Operator) (r : Expr) (s' : Session), Yields (op.build a b) w.session r s' →
      ∃ i lhs rhs, r = op.node i lhs rhs ∧ lhs.sameNode rhs = a.sameNode b := by
  obtain ⟨P, hP, hexprs, -⟩ := h.sound
  have hPa : a ∈ P := World.Sound.has hP hexprs ha
  have hPb : b ∈ P := World.Sound.has hP hexprs hb
  refine ⟨fun r s' hr => ?_, fun r s' hr => ?_, fun op hc s => ?_, fun req hreq s r s' hr => ?_,
    fun op r s' hr => op.sameNode_children hP hPa hPb hr⟩
  · have hr' : Yields ((Operator.binary .eq).build a b) w.session r s' := hr
    obtain ⟨i, lhs, rhs, rfl, hsame⟩ := Operator.sameNode_children hP hPa hPb hr'
    exact congrArg some hsame
  · have hr' : Yields ((Operator.binary .ne).build a b) w.session r s' := hr
    obtain ⟨i, lhs, rhs, rfl, -⟩ := Operator.sameNode_children hP hPa hPb hr'
    rfl
  · have htakes : op.Takes a.dtype := Operator.takes_of_isComparison hc a.dtype
    obtain ⟨i, s', -, hr⟩ := Operator.exists_node htakes rfl rfl s
    exact ⟨_, s', hr⟩
  · rcases req.endsWith_plain hreq s r s' hr with hplain | hop
    · rcases Expr.truth?_of_plain hplain with hnone | hlit
      · exact .inl hnone
      · exact .inr (.inl hlit)
    · exact .inr (.inr hop)

/-- A vector is compared with a number, which is written anew and repeated, and
with itself. -/
theorem products_truth : Reachable World.products ∧ World.products.Has World.vector ∧
    World.products.Has World.three ∧
    (∃ r s', Yields (Build.binary .eq World.vector World.three) World.products.session r s' ∧
      r.truth? = some false) ∧
    ∃ r s', Yields (Build.binary .eq World.vector World.vector) World.products.session r s' ∧
      r.truth? = some true := by
  obtain ⟨hthree, -⟩ := truth_by_identity World.reachable_products World.products_has_vector
    World.products_has_three
  obtain ⟨hself, -, hreflexive, -⟩ := truth_by_identity World.reachable_products
    World.products_has_vector World.products_has_vector
  obtain ⟨r, s', hr⟩ := hreflexive World.equal rfl World.products.session
  exact ⟨World.reachable_products, World.products_has_vector, World.products_has_three,
    ⟨_, _, rfl, hthree _ _ rfl⟩, r, s', hr, hself r s' hr⟩

end Lanewise
