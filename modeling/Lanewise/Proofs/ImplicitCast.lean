/-
# Implicit conversions are explicit casts

An operator converts its operands as if each had been cast to the common type
before. The one difference is a float literal next to an integer vector: a cast
would write it anew as an integer, and the operator casts and repeats the
literal itself.

Key definitions: `Expr.isNaNLiteral`, `Operator.buildCast`.
Key theorems: `Expr.Converted.equal`, `Expr.Spread.equal`, `implicit_eq_explicit`.
-/
import Lanewise.Proofs.Equality
import Lanewise.Proofs.Judgement
import Lanewise.Proofs.Rounding

namespace Lanewise

namespace Expr

/-- The node is a NaN literal. -/
def isNaNLiteral : Expr → Bool
  | floatImm _ x => x.isNaN
  | _ => false

variable {a b e x x' y y' : Expr} {d element : DType} {number : Option Scalar}

/-! ### Equal nodes -/

theorem ofScalar_equal {i j : NodeInfo} {v : Scalar} (h : i.dtype = j.dtype)
    (hv : v.toBinary64.isNaN = false) : (ofScalar i v).equal (ofScalar j v) := by
  unfold ofScalar
  rw [h]
  split
  · simp [equal, h, Binary64.numEq_self, hv]
  · split <;> simp [equal, h]

/-! ### Equal conversions -/

/-- A number that a literal shows, and that is one, is written the same each time. -/
theorem isNaN_of_number? {v : Scalar} (hv : e.number? = some v) (hn : e.isNaNLiteral = false) :
    v.toBinary64.isNaN = false := by
  cases e with
  | intImm i n =>
    cases hv
    exact Scalar.isNaN_int64 n
  | floatImm i x =>
    cases hv
    exact hn
  | stringImm | var | unary | binary | bitwise | cast | broadcast | call => cases hv

theorem Converted.equal (h : Converted number element e y) (h' : Converted number element e y')
    (hn : ∀ v, number = some v → v.toBinary64.isNaN = false) : y.equal y' := by
  cases h with
  | same h =>
    cases h' with
    | same => exact equal_self e
    | literal _ _ hne | cast _ hne => exact absurd h hne
  | literal i v hne hv hi =>
    cases h' with
    | same h => exact absurd h hne
    | literal j v' _ hv' hj =>
      obtain rfl : v = v' := Option.some.inj (hv.symm.trans hv')
      exact ofScalar_equal (hi.trans hj.symm) (hn v hv)
    | cast j _ hv' => cases hv.symm.trans hv'
  | cast i hne hv hi =>
    cases h' with
    | same h => exact absurd h hne
    | literal j v' _ hv' => cases hv'.symm.trans hv
    | cast j _ _ hj => exact cast_equal (hi.trans hj.symm) (equal_self e)

theorem Spread.equal (h : Spread d y x) (h' : Spread d y' x') (hl : y.lanes = y'.lanes)
    (hy : y.equal y') : x.equal x' := by
  cases h with
  | same h =>
    cases h' with
    | same => exact hy
    | broadcast _ hne => exact absurd (hl ▸ h) hne
  | broadcast i hne hi =>
    cases h' with
    | same h => exact absurd (hl.trans h) hne
    | broadcast j _ hj => exact broadcast_equal (hi.trans hj.symm) hy

/-- Coercion and cast write the same number for a literal, unless the literal is
a float and the type an integer one. -/
theorem adapts?_eq_folds? (he : e.NodeTyped) (h : ¬ (e.isFloatLiteral ∧ d.isIntegral)) :
    e.adapts? d = e.folds? d := by
  cases e with
  | intImm i v =>
    have hs : (intImm i v).dtype.isScalar = true := he.2.1
    cases hh : d.isHandle <;>
      simp [adapts?, folds?, number?, hs, hh, Option.filter, Scalar.isFloat, Scalar.float?]
  | floatImm i v =>
    have hs : (floatImm i v).dtype.isScalar = true := he.2.1
    have hd : d.isIntegral = false := by simpa [isFloatLiteral] using h
    cases hc : d.code <;>
      simp_all [adapts?, folds?, number?, Option.filter, DType.isHandle, DType.isFloat,
        DType.isIntegral, DType.isInt, DType.isUInt]
  | stringImm | var | unary | binary | bitwise | cast | broadcast | call =>
    simp [adapts?, folds?, number?]

end Expr

namespace Operator

open Build Lanewise.Expr

variable {op : Operator} {a b e r x y : Expr} {d : DType} {s s' : Session}

/-- The builder of the operator on operands that are cast to the type `d` before. -/
def buildCast (op : Operator) (d : DType) (a b : Expr) : BuildM Expr := do
  let x ← Build.cast a d
  let y ← Build.cast b d
  op.build x y

/-! ### Operands of one type -/

/-- Operands of one type stay as they are. -/
theorem commonType_of_dtype_eq (name : String) (h : a.dtype = b.dtype) :
    commonType name a b = .ok a.dtype := by
  unfold commonType DType.promote
  simp only [h, ne_eq, not_true_eq_false, if_false, if_true]
  split
  · rfl
  · split <;> rfl

theorem eq_of_coerce (hx : x.dtype = d) (h : Gives (coerce d x) s y s') : y = x := by
  obtain ⟨z, hc, hsp⟩ := coerce_spread h
  obtain rfl : z = x := by
    cases hc with
    | same => rfl
    | literal _ _ hne | cast _ hne => exact absurd (congrArg DType.element hx) hne
  cases hsp with
  | same => rfl
  | broadcast _ hne => exact absurd (congrArg DType.lanes hx) hne

/-- Operands of one type, which the operator takes, make a node as they are. -/
theorem exists_node (hd : op.Takes d) (hx : x.dtype = d) (hy : y.dtype = d) (s : Session) :
    ∃ i s', i.dtype = op.resultType d ∧ Yields (op.build x y) s (op.node i x y) s' := by
  have htype : op.operandType x y = .ok d := by
    rw [operandType_of_takes (hx ▸ hd) (hy ▸ hd), commonType_of_dtype_eq _ (hx.trans hy.symm), hx]
  obtain ⟨r, s', hr⟩ := exists_build htype s
  obtain ⟨d', lhs, rhs, i, s₁, s₂, hd', hl, hrhs, hi, rfl⟩ := build_yields hr
  obtain rfl : d = d' := Except.ok.inj (htype.symm.trans hd')
  obtain rfl : lhs = x := eq_of_coerce hx hl
  obtain rfl : rhs = y := eq_of_coerce hy hrhs
  exact ⟨i, s', hi, hr⟩

/-! ### One operand, coerced and cast -/

/-- An operand can be cast to the common type, and the cast is equal to what
coercion makes of it, unless it is NaN or a float that becomes an integer. -/
theorem exists_cast_equal (he : e.NodeTyped) (hf : e.Fits d) (hn : e.isNaNLiteral = false)
    (hi : ¬ (e.isFloatLiteral ∧ d.isIntegral)) (hx : Gives (coerce d e) s x s') (s₀ : Session) :
    ∃ x' s₁, Yields (Build.cast e d) s₀ x' s₁ ∧ x'.dtype = d ∧ x'.equal x := by
  obtain ⟨x', s₁, hrun, y', hc', hsp'⟩ := exists_cast hf s₀
  obtain ⟨y, hc, hsp⟩ := coerce_spread hx
  -- both conversions write the same number, so they take the same turn
  have hnum : e.adapts? d.element = e.folds? d.element := adapts?_eq_folds? he hi
  rw [hnum] at hc
  have hscalar : (e.folds? d.element).isSome → e.dtype.isScalar :=
    fun h => adapts?_isSome_isScalar (hnum ▸ h)
  have hy : y.dtype = d.element.withLanes e.lanes := hc.dtype rfl hscalar
  have hy' : y'.dtype = d.element.withLanes e.lanes := hc'.dtype rfl hscalar
  have hnan : ∀ v, e.folds? d.element = some v → v.toBinary64.isNaN = false := fun v hv =>
    isNaN_of_number? (number?_of_folds? hv) hn
  have heq : y'.equal y := Converted.equal hc' hc hnan
  refine ⟨x', s₁, hrun, hsp'.dtype (hy' ▸ rfl), Spread.equal hsp' hsp ?_ heq⟩
  exact congrArg DType.lanes (hy'.trans hy.symm)

/-- A float adapts to floats only. -/
theorem isFloat_of_adapts (he : e.NodeTyped) (h : e.Adapts d) (hf : e.dtype.isFloat) :
    d.isFloat := by
  rcases h with ⟨hlit, -⟩ | ⟨-, hd⟩
  · exact absurd ((he.isFloat_of_isIntLiteral hlit).symm.trans hf) Bool.false_ne_true
  · exact hd

/-- Over equally many lanes a float decides. -/
theorem isFloat_joined (ha : a.NodeTyped) (hb : b.NodeTyped) (hl : a.lanes = b.lanes)
    (h : a.dtype.isFloat ∨ b.dtype.isFloat) : (a.joined b).isFloat := by
  show (a.joinedElement b).isFloat
  unfold joinedElement
  by_cases h1 : a.dtype.element = b.dtype.element
  · rw [if_pos h1]
    exact h.elim id fun hf => (congrArg DType.isFloat h1).trans hf
  · rw [if_neg h1, if_neg (fun hne => hne hl)]
    by_cases h2 : b.Adapts a.dtype
    · rw [if_pos h2]
      exact h.elim id (isFloat_of_adapts hb h2)
    · rw [if_neg h2]
      by_cases h3 : a.Adapts b.dtype
      · rw [if_pos h3]
        exact h.elim (isFloat_of_adapts ha h3) id
      · rw [if_neg h3]
        by_cases h4 : a.dtype.isFloat
        · rw [if_pos h4]
          exact h4
        · rw [if_neg h4]
          exact h.resolve_left h4

/-- A float that becomes an integer over other lanes is cast and then repeated. -/
theorem broadcast_of_coerce (he : e.NodeTyped) (hf : e.dtype.isFloat) (hi : d.isIntegral)
    (hl : e.lanes ≠ d.lanes) (hx : Gives (coerce d e) s x s') :
    ∃ j k, x = .broadcast j (.cast k e) := by
  obtain ⟨y, hc, hsp⟩ := coerce_spread hx
  have hd : d.isFloat = false := DType.isFloat_of_isIntegral hi
  have hnone : e.adapts? d.element = none := by
    rw [Option.eq_none_iff_forall_ne_some]
    intro v hv
    have ha : e.Adapts d.element := (adapts?_isSome_iff he _).mp (Option.isSome_of_eq_some hv)
    exact Bool.false_ne_true (hd.symm.trans (isFloat_of_adapts he ha hf))
  cases hc with
  | same h => exact absurd (hd.symm.trans ((DType.isFloat_eq h).symm.trans hf)) Bool.false_ne_true
  | literal _ v _ hv => cases hnone.symm.trans hv
  | cast k _ _ hk =>
    cases hsp with
    | same h => exact absurd ((congrArg DType.lanes hk).symm.trans h) hl
    | broadcast j => exact ⟨j, k, rfl⟩

theorem ne_of_isFloat (hi : d.isIntegral) (hf : e.dtype.isFloat) : d ≠ e.dtype := by
  rintro rfl
  exact Bool.false_ne_true ((DType.isFloat_of_isIntegral hi).symm.trans hf)

/-- Where a float becomes an integer, the other operand is a vector. -/
theorem lanes_ne_of_isFloat (ha : a.NodeTyped) (hb : b.NodeTyped)
    (h : op.operandType a b = .ok d) (hi : d.isIntegral)
    (hf : a.dtype.isFloat ∨ b.dtype.isFloat) : a.lanes ≠ b.lanes := by
  intro hl
  have hcommon := (operandType_eq_ok_iff.mp h).2
  rw [commonType_eq op.name ha hb] at hcommon
  split at hcommon
  · obtain rfl : a.joined b = d := Except.ok.inj hcommon
    have hd : (a.joined b).isFloat = false := DType.isFloat_of_isIntegral hi
    exact Bool.false_ne_true (hd.symm.trans (isFloat_joined ha hb hl hf))
  · simp at hcommon

end Operator

open Build Operator

/-- **Implicit conversion agrees with an explicit cast.** When an operator makes
a node of two expressions, so it does of their casts to the type `d` of its
operands, and an equal one. Only a float literal among integers is left as it
is, in a cast that is repeated over the lanes. -/
theorem implicit_eq_explicit {w : World} (h : Reachable w) {a b : Expr} (ha : w.Has a)
    (hb : w.Has b) (op : Operator) {s s' : Session} {r : Expr}
    (hr : Yields (op.build a b) s r s') :
    ∃ i lhs rhs d, r = op.node i lhs rhs ∧ lhs.dtype = d ∧ rhs.dtype = d ∧
      (a.isNaNLiteral = false → b.isNaNLiteral = false →
        ¬ ((a.isFloatLiteral ∨ b.isFloatLiteral) ∧ d.isIntegral) →
        ∀ s₀, ∃ r' s₁, Yields (op.buildCast d a b) s₀ r' s₁ ∧ r'.equal r) ∧
      (a.isFloatLiteral → d.isIntegral → ∃ j k, lhs = .broadcast j (.cast k a)) ∧
      (b.isFloatLiteral → d.isIntegral → ∃ j k, rhs = .broadcast j (.cast k b)) := by
  have hta : a.NodeTyped := h.nodeTyped ha
  have htb : b.NodeTyped := h.nodeTyped hb
  obtain ⟨d, lhs, rhs, i, s₁, s₂, hd, hlhs, hrhs, hi, rfl⟩ := build_yields hr
  obtain ⟨⟨htakes, htakes'⟩, hcommon⟩ := operandType_eq_ok_iff.mp hd
  obtain ⟨hside, hfa, hfb⟩ := fits_of_commonType hcommon
  have hdtakes : op.Takes d := by
    rcases hside with rfl | rfl
    · exact htakes
    · exact htakes'
  refine ⟨i, lhs, rhs, d, rfl, coerce_dtype hlhs, coerce_dtype hrhs, ?_, ?_, ?_⟩
  · intro hna hnb hex s₀
    obtain ⟨x, t₁, hx, hxd, hxl⟩ :=
      exists_cast_equal hta hfa hna (fun ⟨hl, hint⟩ => hex ⟨.inl hl, hint⟩) hlhs s₀
    obtain ⟨y, t₂, hy, hyd, hyr⟩ :=
      exists_cast_equal htb hfb hnb (fun ⟨hl, hint⟩ => hex ⟨.inr hl, hint⟩) hrhs t₁
    obtain ⟨j, t₃, hj, hnode⟩ := exists_node hdtakes hxd hyd t₂
    refine ⟨op.node j x y, t₃, ?_, Expr.node_equal (hj.trans hi.symm) hxl hyr⟩
    exact yields_bind.mpr ⟨x, t₁, hx, yields_bind.mpr ⟨y, t₂, hy, hnode⟩⟩
  · intro hlit hint
    have hf : a.dtype.isFloat := hta.isFloat_of_isFloatLiteral hlit
    have hne : a.lanes ≠ b.lanes := lanes_ne_of_isFloat hta htb hd hint (.inl hf)
    have hdb : d = b.dtype := hside.resolve_left (ne_of_isFloat hint hf)
    exact broadcast_of_coerce hta hf hint (hdb ▸ hne) hlhs
  · intro hlit hint
    have hf : b.dtype.isFloat := htb.isFloat_of_isFloatLiteral hlit
    have hne : a.lanes ≠ b.lanes := lanes_ne_of_isFloat hta htb hd hint (.inr hf)
    have hda : d = a.dtype := hside.resolve_right (ne_of_isFloat hint hf)
    exact broadcast_of_coerce htb hf hint (hda ▸ hne.symm) hrhs

/-- A vector times a number, which is cast and repeated. -/
theorem products_implicit_eq_explicit : ∃ r s',
    Yields (World.times.build World.vector World.three) {} r s' ∧
    ∃ i lhs rhs d, r = World.times.node i lhs rhs ∧ lhs.dtype = d ∧ rhs.dtype = d ∧
      (World.vector.isNaNLiteral = false → World.three.isNaNLiteral = false →
        ¬ ((World.vector.isFloatLiteral ∨ World.three.isFloatLiteral) ∧ d.isIntegral) →
        ∀ s₀, ∃ r' s₁, Yields (World.times.buildCast d World.vector World.three) s₀ r' s₁ ∧
          r'.equal r) ∧
      (World.vector.isFloatLiteral → d.isIntegral →
        ∃ j k, lhs = .broadcast j (.cast k World.vector)) ∧
      (World.three.isFloatLiteral → d.isIntegral →
        ∃ j k, rhs = .broadcast j (.cast k World.three)) :=
  ⟨_, _, rfl, implicit_eq_explicit World.reachable_products World.products_has_vector
    World.products_has_three World.times rfl⟩

end Lanewise
