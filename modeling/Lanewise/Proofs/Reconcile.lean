/-
# Bringing two operands together

When two operands have a common type, and which. The statements are about the
operands' types and whether they are literals; `commonType_eq` says that this
is what builders decide by. Both operands then fit the common type: they have
its lanes or are scalar.

Key definitions: `Expr.Adapts`, `Expr.Reconcilable`, `Expr.joined`, `Operator`, `Operator.Takes`.
Key theorems: `Build.commonType_eq`, `Operator.operandType_eq_ok_iff`.
-/
import Lanewise.Build.Operator
import Lanewise.Proofs.Running
import Lanewise.Proofs.WellTyped

namespace Lanewise

namespace Expr

/-- The node is a literal that keeps a word. -/
def isIntLiteral : Expr → Bool
  | intImm .. => true
  | _ => false

/-- The node is a literal that keeps a double. -/
def isFloatLiteral : Expr → Bool
  | floatImm .. => true
  | _ => false

theorem NodeTyped.isFloat_of_isIntLiteral {e : Expr} (he : e.NodeTyped) (h : e.isIntLiteral) :
    e.dtype.isFloat = false := by
  cases e with
  | intImm => exact he.2.2.1
  | _ => cases h

theorem NodeTyped.isFloat_of_isFloatLiteral {e : Expr} (he : e.NodeTyped) (h : e.isFloatLiteral) :
    e.dtype.isFloat := by
  cases e with
  | floatImm => exact he.2.2
  | _ => cases h

/-- `e` is a literal that is written anew where lanes of the type `t` are
asked for: an integer for all but handles, a float for floats. -/
def Adapts (e : Expr) (t : DType) : Prop :=
  e.isIntLiteral ∧ t.isHandle = false ∨ e.isFloatLiteral ∧ t.isFloat

instance (e : Expr) (t : DType) : Decidable (e.Adapts t) :=
  inferInstanceAs (Decidable (_ ∨ _))

/-- The types of `a` and `b` can be brought together. -/
def Reconcilable (a b : Expr) : Prop :=
  (a.lanes = b.lanes ∨
    a.dtype.isScalar ≠ b.dtype.isScalar ∧ a.dtype.isHandle = false ∧ b.dtype.isHandle = false) ∧
  (a.lanes = b.lanes → a.dtype.element = b.dtype.element ∨ a.Adapts b.dtype ∨ b.Adapts a.dtype ∨
    a.dtype.isFloat ∧ b.dtype.isIntegral ∨ a.dtype.isIntegral ∧ b.dtype.isFloat)

instance (a b : Expr) : Decidable (a.Reconcilable b) :=
  inferInstanceAs (Decidable (_ ∧ _))

/-- The lane type that two operands agree on: the one they share, else that of
the only vector, else that which a literal adapts to, the right one first, else
the float. -/
def joinedElement (a b : Expr) : DType :=
  if a.dtype.element = b.dtype.element then a.dtype.element
  else if a.lanes ≠ b.lanes then
    if a.dtype.isVector then a.dtype.element else b.dtype.element
  else if b.Adapts a.dtype then a.dtype.element
  else if a.Adapts b.dtype then b.dtype.element
  else if a.dtype.isFloat then a.dtype.element
  else b.dtype.element

/-- The type that two operands agree on. -/
def joined (a b : Expr) : DType := (a.joinedElement b).withLanes (max a.lanes b.lanes)

/-- `e` can be an operand of the type `d`. -/
def Fits (e : Expr) (d : DType) : Prop := e.lanes = d.lanes ∨ e.dtype.isScalar

/-- What fits a type still fits it with another lane type. -/
theorem Fits.retyped {e y : Expr} {d element : DType} (h : e.Fits d)
    (hy : y.dtype = element.withLanes e.lanes) : y.Fits d := by
  rcases h with hl | hs
  · exact .inl ((congrArg DType.lanes hy).trans hl)
  · exact .inr (by rw [hy]; exact hs)

theorem adapts?_isSome_iff {e : Expr} (he : e.NodeTyped) (t : DType) :
    (e.adapts? t).isSome = true ↔ e.Adapts t := by
  cases e with
  | intImm i v =>
    have hs : (intImm i v).dtype.isScalar = true := he.2.1
    cases ht : t.isHandle <;>
      simp [adapts?, folds?, number?, Adapts, isIntLiteral, isFloatLiteral, hs, ht,
        Option.filter, Scalar.isFloat, Scalar.float?]
  | floatImm i x =>
    have hs : (floatImm i x).dtype.isScalar = true := he.2.1
    cases hf : t.isFloat <;> cases ht : t.isHandle <;>
      simp_all [adapts?, folds?, number?, Adapts, isIntLiteral, isFloatLiteral,
        Option.filter, Scalar.isFloat, Scalar.float?, DType.isFloat, DType.isHandle]
  | stringImm | var | unary | binary | bitwise | cast | broadcast | call =>
    simp [adapts?, folds?, number?, Adapts, isIntLiteral, isFloatLiteral]

theorem isScalar_of_adapts? {e : Expr} {t : DType} {v : Scalar} (h : e.adapts? t = some v) :
    e.dtype.isScalar := by
  unfold adapts? at h
  split at h
  · assumption
  · simp at h

theorem number?_of_folds? {e : Expr} {t : DType} {v : Scalar} (h : e.folds? t = some v) :
    e.number? = some v := by
  unfold folds? at h
  split at h
  · simp at h
  · exact h

theorem number?_of_adapts? {e : Expr} {t : DType} {v : Scalar} (h : e.adapts? t = some v) :
    e.number? = some v := by
  unfold adapts? at h
  split at h
  · exact number?_of_folds? (Option.filter_eq_some_iff.mp h).1
  · simp at h

theorem isLiteral_of_folds? {e : Expr} {t : DType} {v : Scalar} (h : e.folds? t = some v) :
    e.isLiteral := by
  have hv := number?_of_folds? h
  cases e with
  | intImm | floatImm => rfl
  | _ => cases hv

theorem max_lanes_right {a b : Expr} (ha : a.dtype.isScalar) (hb : b.dtype.lanes ≠ 0) :
    max a.lanes b.lanes = b.lanes := by
  have h0 : b.lanes.toNat ≠ 0 := fun h => hb (UInt16.toNat_inj.mp h)
  have h1 : a.lanes = 1 := DType.isScalar_iff.mp ha
  have hle : a.lanes ≤ b.lanes := by
    rw [h1, UInt16.le_iff_toNat_le]
    exact Nat.one_le_iff_ne_zero.mpr h0
  exact if_pos hle

theorem max_lanes_left {a b : Expr} (ha : a.dtype.lanes ≠ 0) (hb : b.dtype.isScalar) :
    max a.lanes b.lanes = a.lanes := by
  have h0 : a.lanes.toNat ≠ 0 := fun h => ha (UInt16.toNat_inj.mp h)
  have h1 : b.lanes = 1 := DType.isScalar_iff.mp hb
  by_cases hle : a.lanes ≤ b.lanes
  · have h2 : a.lanes.toNat ≤ 1 := by simpa [h1, UInt16.le_iff_toNat_le] using hle
    have h3 : a.lanes = b.lanes := by
      rw [h1, ← UInt16.toNat_inj]
      show a.lanes.toNat = 1
      omega
    exact (if_pos hle).trans h3.symm
  · exact if_neg hle

end Expr

namespace Build

open Lanewise.Expr

variable {a b : Expr}

/-- Over equally many lanes, `joined` is the type with the joined element. -/
theorem joined_eq_of_element (hl : a.lanes = b.lanes) {d : DType} (hd : d.lanes = a.lanes)
    (he : a.joinedElement b = d.element) : a.joined b = d := by
  have hmax : max a.lanes b.lanes = a.lanes := by
    rw [← hl]
    exact ite_self _
  rw [joined, he, hmax, ← hd]
  rfl

/-- Over different lane counts, the vector decides. -/
theorem joinedElement_of_lanes_ne (hl : a.lanes ≠ b.lanes) :
    a.joinedElement b = if a.dtype.isVector then a.dtype.element else b.dtype.element := by
  unfold joinedElement
  by_cases he : a.dtype.element = b.dtype.element
  · rw [if_pos he, he, ite_self]
  · rw [if_neg he, if_pos hl]

theorem commonType_of_lanes_eq (op : String) (ha : a.NodeTyped) (hb : b.NodeTyped)
    (hl : a.lanes = b.lanes) :
    commonType op a b = if a.Reconcilable b then .ok (a.joined b)
      else .error (.dtypeMismatch op a.dtype b.dtype) := by
  have hl' : a.dtype.lanes = b.dtype.lanes := hl
  have hiff : a.Reconcilable b ↔ a.dtype.element = b.dtype.element ∨ a.Adapts b.dtype ∨
      b.Adapts a.dtype ∨ a.dtype.isFloat ∧ b.dtype.isIntegral ∨
        a.dtype.isIntegral ∧ b.dtype.isFloat :=
    ⟨fun h => h.2 hl, fun h => ⟨.inl hl, fun _ => h⟩⟩
  have hA : (a.adapts? b.dtype.element).isSome = true ↔ a.Adapts b.dtype := adapts?_isSome_iff ha _
  have hB : (b.adapts? a.dtype.element).isSome = true ↔ b.Adapts a.dtype := adapts?_isSome_iff hb _
  have hleft : a.joinedElement b = a.dtype.element → a.joined b = a.dtype :=
    joined_eq_of_element hl rfl
  have hright : a.joinedElement b = b.dtype.element → a.joined b = b.dtype :=
    joined_eq_of_element hl hl.symm
  have hne : ¬ a.lanes ≠ b.lanes := fun h => h hl
  -- the builder asks for adapting literals before it compares the types, and
  -- `joinedElement` after; where the types are one type, both ways give it
  unfold commonType
  simp only [hl', ne_eq, not_true_eq_false, if_false, hA, hB]
  by_cases h1 : b.Adapts a.dtype
  · rw [if_pos h1, if_pos (hiff.mpr (.inr (.inr (.inl h1)))), hleft]
    simp only [joinedElement, hne, h1, if_true, if_false, ite_self]
  · rw [if_neg h1]
    by_cases h2 : a.Adapts b.dtype
    · rw [if_pos h2, if_pos (hiff.mpr (.inr (.inl h2))), hright]
      by_cases he : a.dtype.element = b.dtype.element
      · simp only [joinedElement, he, if_true]
      · simp only [joinedElement, he, hne, h1, h2, if_true, if_false]
    · rw [if_neg h2, DType.promote, if_neg (fun h => h hl')]
      by_cases he : a.dtype.element = b.dtype.element
      · have hd : a.dtype = b.dtype := DType.eq_of_element_eq he hl'
        rw [if_pos hd, if_pos (hiff.mpr (.inl he)), hleft]
        simp only [joinedElement, he, if_true]
      · have hd : a.dtype ≠ b.dtype := fun h => he (congrArg DType.element h)
        rw [if_neg hd]
        by_cases h3 : a.dtype.isFloat ∧ b.dtype.isIntegral
        · rw [if_pos h3, if_pos (hiff.mpr (.inr (.inr (.inr (.inl h3))))), hleft]
          simp only [joinedElement, he, hne, h1, h2, h3.1, if_true, if_false]
        · rw [if_neg h3]
          by_cases h4 : b.dtype.isFloat ∧ a.dtype.isIntegral
          · have hf : a.dtype.isFloat = false := DType.isFloat_of_isIntegral h4.2
            rw [if_pos h4, if_pos (hiff.mpr (.inr (.inr (.inr (.inr h4.symm))))), hright]
            simp only [joinedElement, he, hne, h1, h2, hf, if_false, Bool.false_eq_true]
          · rw [if_neg h4, if_neg]
            rw [hiff]
            rintro (h | h | h | h | h)
            · exact he h
            · exact h2 h
            · exact h1 h
            · exact h3 h
            · exact h4 h.symm

theorem commonType_of_lanes_ne (op : String) (ha : a.NodeTyped) (hb : b.NodeTyped)
    (hl : a.lanes ≠ b.lanes) :
    commonType op a b = if a.Reconcilable b then .ok (a.joined b)
      else .error (.dtypeMismatch op a.dtype b.dtype) := by
  have hl' : a.dtype.lanes ≠ b.dtype.lanes := hl
  have hiff : a.Reconcilable b ↔ a.dtype.isScalar ≠ b.dtype.isScalar ∧
      a.dtype.isHandle = false ∧ b.dtype.isHandle = false :=
    ⟨fun h => h.1.resolve_left hl, fun h => ⟨.inr h, fun h' => absurd h' hl⟩⟩
  unfold commonType
  rw [if_pos hl']
  by_cases hh : a.dtype.isHandle || b.dtype.isHandle
  · rw [if_pos hh, if_neg]
    rw [hiff]
    rintro ⟨-, h1, h2⟩
    simp [h1, h2] at hh
  · have hh' : a.dtype.isHandle = false ∧ b.dtype.isHandle = false := by simpa using hh
    rw [if_neg hh, DType.promote, if_pos hl']
    by_cases h1 : a.dtype.isScalar
    · have h2 : b.dtype.isScalar = false := DType.isScalar_eq_false h1 hl'
      have hv : a.dtype.isVector = false := by rw [ha.valid.isVector_eq, h1]; rfl
      have he : a.joinedElement b = b.dtype.element := by
        rw [joinedElement_of_lanes_ne hl, hv]
        rfl
      rw [if_pos h1, if_pos (hiff.mpr ⟨by rw [h1, h2]; decide, hh'⟩), joined, he,
        max_lanes_right h1 hb.valid.lanes_ne_zero]
      rfl
    · have h1' : a.dtype.isScalar = false := by simpa using h1
      have hv : a.dtype.isVector = true := by rw [ha.valid.isVector_eq, h1']; rfl
      rw [if_neg h1]
      by_cases h2 : b.dtype.isScalar
      · have he : a.joinedElement b = a.dtype.element := by
          rw [joinedElement_of_lanes_ne hl, hv]
          rfl
        rw [if_pos h2, if_pos (hiff.mpr ⟨by rw [h1', h2]; decide, hh'⟩), joined, he,
          max_lanes_left ha.valid.lanes_ne_zero h2]
        rfl
      · have h2' : b.dtype.isScalar = false := by simpa using h2
        rw [if_neg h2, if_neg]
        rw [hiff]
        rintro ⟨h, -⟩
        exact h (h1'.trans h2'.symm)

/-- **What builders decide by.** Two typed operands have a common type just
when they are reconcilable, and then it is the joined one. -/
theorem commonType_eq (op : String) (ha : a.NodeTyped) (hb : b.NodeTyped) :
    commonType op a b = if a.Reconcilable b then .ok (a.joined b)
      else .error (.dtypeMismatch op a.dtype b.dtype) := by
  by_cases hl : a.lanes = b.lanes
  · exact commonType_of_lanes_eq op ha hb hl
  · exact commonType_of_lanes_ne op ha hb hl

/-- The common type is that of an operand, and both operands fit it. -/
theorem fits_of_commonType {op : String} {d : DType} (h : commonType op a b = .ok d) :
    (d = a.dtype ∨ d = b.dtype) ∧ a.Fits d ∧ b.Fits d := by
  unfold commonType at h
  by_cases hl : a.dtype.lanes = b.dtype.lanes
  · have hd : d = a.dtype ∨ d = b.dtype := by
      simp only [hl, ne_eq, not_true_eq_false, if_false, DType.promote] at h
      grind
    refine ⟨hd, .inl ?_, .inl ?_⟩
    · rcases hd with rfl | rfl
      · rfl
      · exact hl
    · rcases hd with rfl | rfl
      · exact hl.symm
      · rfl
  · rw [if_pos hl, DType.promote, if_pos hl] at h
    by_cases hh : a.dtype.isHandle || b.dtype.isHandle
    · rw [if_pos hh] at h
      simp at h
    · rw [if_neg hh] at h
      by_cases h1 : a.dtype.isScalar
      · rw [if_pos h1] at h
        cases h
        exact ⟨.inr rfl, .inr h1, .inl rfl⟩
      · rw [if_neg h1] at h
        by_cases h2 : b.dtype.isScalar
        · rw [if_pos h2] at h
          cases h
          exact ⟨.inl rfl, .inl rfl, .inr h2⟩
        · rw [if_neg h2] at h
          simp at h

end Build

/-! ### Operators -/

/-- The operators that take two operands. -/
inductive Operator where
  | binary (op : BinaryOp)
  | bitwise (op : BitwiseOp)
deriving DecidableEq, Repr

namespace Operator

/-- The name of the operator in errors. -/
def name : Operator → String
  | binary op => op.name
  | bitwise op => op.name

/-- The one type of both operands. -/
def operandType : Operator → Expr → Expr → Except BuildError DType
  | binary op => op.operandType
  | bitwise op => op.operandType

/-- The type of a node with operands of the type `d`. -/
def resultType : Operator → DType → DType
  | binary op => op.resultType
  | bitwise _ => id

/-- The node of the operator with the head `i`. -/
def node (i : NodeInfo) : Operator → Expr → Expr → Expr
  | binary op => .binary i op
  | bitwise op => .bitwise i op

/-- The builder of the operator's nodes. -/
def build : Operator → Expr → Expr → BuildM Expr
  | binary op => Build.binary op
  | bitwise op => Build.bitwise op

@[simp] theorem info_node (i : NodeInfo) (op : Operator) (a b : Expr) :
    (op.node i a b).info = i := by
  cases op <;> rfl

@[simp] theorem operands_node (i : NodeInfo) (op : Operator) (a b : Expr) :
    (op.node i a b).operands = [a, b] := by
  cases op <;> rfl

/-- All operators are built in the same steps. -/
theorem build_eq (op : Operator) (a b : Expr) : op.build a b = do
    let d ← op.operandType a b
    let lhs ← Build.coerce d a
    let rhs ← Build.coerce d b
    return op.node (← Build.fresh (op.resultType d)) lhs rhs := by
  cases op <;> rfl

/-- Operands of the type `d` make sense to the operator. -/
def Takes : Operator → DType → Prop
  | binary op, d => (op.isComparison = false → d.isHandle = false) ∧ (op.isLogical → d.isBool)
  | bitwise _, d => d.isIntegral

theorem check_eq_ok_iff {op : BinaryOp} {s t : DType} {u : Unit} :
    op.check s t = .ok u ↔ (binary op).Takes s ∧ (binary op).Takes t := by
  simp only [BinaryOp.check, Takes]
  cases op.isComparison <;> cases op.isLogical <;> cases s.isHandle <;> cases t.isHandle <;>
    cases s.isBool <;> cases t.isBool <;> simp

/-- The types pass the check of the operator, and there is a common one. -/
theorem operandType_eq_ok_iff {op : Operator} {a b : Expr} {d : DType} :
    op.operandType a b = .ok d ↔
      (op.Takes a.dtype ∧ op.Takes b.dtype) ∧ Build.commonType op.name a b = .ok d := by
  cases op with
  | binary op =>
    rw [← check_eq_ok_iff (u := ())]
    show op.check a.dtype b.dtype >>= (fun _ => Build.commonType op.name a b) = .ok d ↔ _
    cases op.check a.dtype b.dtype with
    | error err =>
      constructor
      · intro h
        cases h
      · rintro ⟨h, -⟩
        simp at h
    | ok u => exact ⟨fun h => ⟨rfl, h⟩, fun h => h.2⟩
  | bitwise op =>
    show BitwiseOp.operandType op a b = .ok d ↔ _
    simp only [BitwiseOp.operandType, Takes]
    cases a.dtype.isIntegral <;> cases b.dtype.isIntegral <;> simp [name]

/-- The type that the operands are brought to makes sense to the operator. -/
theorem takes_of_operandType {op : Operator} {a b : Expr} {d : DType}
    (h : op.operandType a b = .ok d) : op.Takes d := by
  obtain ⟨⟨hta, htb⟩, hcommon⟩ := operandType_eq_ok_iff.mp h
  rcases (Build.fits_of_commonType hcommon).1 with rfl | rfl
  · exact hta
  · exact htb

theorem resultType_of_typed {op : BinaryOp} {i : NodeInfo} {a b : Expr}
    (h : (Expr.binary i op a b).NodeTyped) : i.dtype = op.resultType a.dtype := by
  obtain ⟨-, -, hcomparison, hother, -⟩ := h
  unfold BinaryOp.resultType
  cases hc : op.isComparison with
  | true => exact hcomparison hc
  | false => exact (hother hc).1

/-- The node over operands of a type that it takes is typed. -/
theorem node_typed {op : Operator} {i : NodeInfo} {a b : Expr} {d : DType} (hd : d.Valid)
    (ht : op.Takes d) (hi : i.dtype = op.resultType d) (ha : a.dtype = d) (hb : b.dtype = d) :
    (op.node i a b).NodeTyped := by
  cases op with
  | binary op =>
    obtain ⟨h1, h2⟩ := ht
    have hi' : i.dtype = if op.isComparison then .bool d.lanes else d := hi
    cases hc : op.isComparison with
    | true =>
      rw [hc, if_pos rfl] at hi'
      refine ⟨hi' ▸ DType.bool_valid hd.lanes_ne_zero, ha.trans hb.symm, fun _ => ?_, ?_, ?_⟩
      · rw [hi', Expr.lanes, ha]
      · rw [hc]
        exact fun h => by cases h
      · rw [ha]
        exact h2
    | false =>
      rw [hc, if_neg (by decide)] at hi'
      refine ⟨hi' ▸ hd, ha.trans hb.symm, ?_, fun _ => ⟨hi'.trans ha.symm, ?_⟩, ?_⟩
      · rw [hc]
        exact fun h => by cases h
      · rw [ha]
        exact h1 hc
      · rw [ha]
        exact h2
  | bitwise op =>
    have hi' : i.dtype = d := hi
    exact ⟨hi' ▸ hd, ha.trans hi'.symm, hb.trans hi'.symm, hi' ▸ ht⟩

end Operator

end Lanewise
