/-
# Negation

The negative of `x` is the product of `x` with a literal of its lane type that stands
for -1. A type without a sign has no -1; its literal stands for the one number of the
range that is congruent to it, booleans included, and that is all a product modulo
`2 ^ bits` asks for (`mul_ofInt_eq_neg`).

The product brings its operands to one type, and that could retype either of them. It
does not: the lane type of `x` gives way to `x` (`DType.element_le`), so the common
type is that of `x`, and an operand that has the lane type already is at most repeated
(`Build.coerce_of_element_eq`).

Key definitions: `Expr.MinusOne`.
Key theorems: `mul_ofInt_eq_neg`, `Expr.ofScalar_minusOne`, `Operator.exists_node_beside`,
`negation_exact`.
-/
import Lanewise.Proofs.Conditions
import Lanewise.Proofs.IntegerToFloat
import Lanewise.Proofs.Promotion
import Lanewise.Proofs.Repetition
import Lanewise.Proofs.Residue
import Mathlib.Data.BitVec

namespace Lanewise

open Build

/-! ### Minus one -/

/-- A number congruent to -1 takes each word to its negative. -/
theorem mul_ofInt_eq_neg {n : Nat} {c : Int} (h : c ≡ -1 [ZMOD 2 ^ n]) (y : BitVec n) :
    y * .ofInt n c = -y := by
  have hc : BitVec.ofInt n c = .ofInt n (-1) := by
    apply BitVec.eq_of_toInt_eq
    rw [BitVec.toInt_ofInt, BitVec.toInt_ofInt, ← Int.emod_bmod c, ← Int.emod_bmod (-1)]
    exact congrArg (Int.bmod · _) (by exact_mod_cast h)
  rw [hc, BitVec.ofInt_neg]
  simp

theorem DType.residue_neg_one_modEq (d : DType) : d.residue (-1) ≡ -1 [ZMOD 2 ^ d.bits.toNat] := by
  by_cases hb : d.isBool
  · -- 1 and -1 differ by the two values of a truth value
    have hbits : d.bits = 1 := (isBool_iff.mp hb).2
    rw [residue_of_isBool hb, hbits]
    decide
  · exact residue_modEq (Bool.eq_false_iff.mpr hb) (-1)

theorem Binary64.value?_ofInt_neg_one : (Binary64.ofInt (-1)).value? = some (-1) := by
  have hr : (Binary64.ofInt (-1)).reading = .finite true (2 ^ 52) (-52) := by decide
  rw [value?, hr, Reading.value?]
  norm_num [sign]

namespace Expr

variable {d : DType} {l x y : Expr}

/-- A literal of the type `d` that stands for -1: a float for the number itself, an
integer for the number of the range that is congruent to it. -/
def MinusOne (d : DType) : Expr → Prop
  | floatImm i v => i.dtype = d ∧ d.isFloat ∧ v.value? = some (-1)
  | intImm i v => i.dtype = d ∧ d.Holds (d.denote v) ∧ d.denote v ≡ -1 [ZMOD 2 ^ d.bits.toNat]
  | _ => False

/-- The literal that is made for -1. -/
theorem ofScalar_minusOne {i : NodeInfo} (hi : i.dtype.Valid) (hh : i.dtype.isHandle = false) :
    (ofScalar i (.int64 (-1))).MinusOne i.dtype := by
  by_cases hf : i.dtype.isFloat
  · have hlit : ofScalar i (.int64 (-1)) = .floatImm i (.ofInt (-1)) := if_pos hf
    rw [hlit]
    exact ⟨rfl, hf, Binary64.value?_ofInt_neg_one⟩
  · have hint : i.dtype.isIntegral := DType.isIntegral_of_not_isFloat hf hh
    have hlit : ofScalar i (.int64 (-1)) = .intImm i (i.dtype.wrap (.ofInt (-1))) :=
      ofScalar_eq_intImm rfl (Bool.eq_false_iff.mpr hf)
    have hdenote : i.dtype.denote (i.dtype.wrap (.ofInt (-1))) = i.dtype.residue (-1) :=
      DType.denote_wrap_eq_residue hi hint _
    rw [hlit, MinusOne, hdenote]
    exact ⟨rfl, DType.holds_residue hi hint _, DType.residue_neg_one_modEq _⟩

theorem MinusOne.operands (h : l.MinusOne d) : l.operands = [] := by
  cases l with
  | intImm | floatImm => rfl
  | _ => exact h.elim

/-- The literal is a node of its own, and no cast. -/
theorem MinusOne.not_cast {j : NodeInfo} (h : l.MinusOne d) : ¬ (cast j y).Occurs l := by
  rw [occurs_iff, h.operands]
  rintro (rfl | ⟨z, hz, -⟩)
  · exact h
  · exact List.not_mem_nil hz

theorem MinusOne.not_cast_broadcast {i j : NodeInfo} (h : l.MinusOne d) :
    ¬ (cast j y).Occurs (.broadcast i l) := by
  rw [occurs_iff]
  rintro (hcast | ⟨z, hz, hocc⟩)
  · cases hcast
  · obtain rfl := List.mem_singleton.mp hz
    exact h.not_cast hocc

/-- The product with the literal of an integer type is the negative, modulo `2 ^ bits`. -/
theorem MinusOne.mul_eq_neg {i : NodeInfo} {v : Int64} (h : (intImm i v).MinusOne d)
    (y : BitVec d.bits.toNat) : y * .ofInt _ (d.denote v) = -y :=
  mul_ofInt_eq_neg h.2.2 y

end Expr

/-! ### Next to its lane type -/

theorem DType.element_le (d : DType) : d.element ≤ d := by
  by_cases hs : d.isScalar
  · exact (DType.element_eq_self hs).le
  · exact .inr (.inl ⟨rfl, Bool.eq_false_iff.mpr hs⟩)

namespace Build

variable {a b e x y : Expr} {d : DType} {s s' : Session}

/-- A type decides next to its lane type. -/
theorem commonType_of_dtype_eq_element (name : String) (hh : a.dtype.isHandle = false)
    (h : b.dtype = a.dtype.element) : commonType name a b = .ok a.dtype := by
  by_cases hl : a.dtype.lanes = b.dtype.lanes
  · refine Operator.commonType_of_dtype_eq name ?_
    rw [h] at hl ⊢
    exact (DType.element_eq_self (DType.isScalar_iff.mpr hl)).symm
  · have hbh : b.dtype.isHandle = false := by
      rw [h]
      exact hh
    have hle : b.dtype ≤ a.dtype := h ▸ a.dtype.element_le
    rw [commonType, if_pos hl, hh, hbh]
    exact DType.promote_of_le hle

/-- An operand that has the lane type is at most repeated. -/
theorem coerce_of_element_eq (h : e.dtype.element = d.element) :
    coerce d e = coerceLanes d.lanes e := by
  rw [coerce, coerceElement, if_pos h]
  rfl

end Build

namespace Operator

variable {op : Operator} {x l : Expr}

/-- Beside a scalar of its lane type, which is repeated if need be, `x` stays as it is. -/
theorem exists_node_beside (hx : op.Takes x.dtype) (hl : op.Takes l.dtype)
    (hh : x.dtype.isHandle = false) (he : l.dtype = x.dtype.element) (s : Session) :
    ∃ i rhs s', Yields (op.build x l) s (op.node i x rhs) s' ∧ i.dtype = op.resultType x.dtype ∧
      (x.dtype.isScalar → rhs = l ∧ s'.notes = s.notes) ∧
      (x.dtype.isScalar = false → (∃ j, j.dtype = x.dtype ∧ rhs = .broadcast j l) ∧
        s'.notes = s.notes ++ [.implicitBroadcast x.dtype.element x.lanes]) := by
  have htype : op.operandType x l = .ok x.dtype :=
    (operandType_of_takes hx hl).trans (commonType_of_dtype_eq_element op.name hh he)
  obtain ⟨r, s', hrun⟩ := exists_build htype s
  obtain ⟨d, lhs, rhs, s₁, s₂, hd, hlhs, hrhs, rfl, rfl⟩ := build_steps hrun
  obtain rfl : x.dtype = d := Except.ok.inj (htype.symm.trans hd)
  have hel : l.dtype.element = x.dtype.element :=
    (congrArg DType.element he).trans (DType.element_element _)
  have hlanes : l.lanes = 1 := congrArg DType.lanes he
  rw [coerce_of_element_eq rfl] at hlhs
  obtain ⟨hkept, rfl⟩ := gives_coerceLanes_of_eq rfl hlhs
  rw [hkept] at hrun
  rw [coerce_of_element_eq hel] at hrhs
  refine ⟨_, rhs, _, hrun, rfl, fun hs => ?_, fun hs => ?_⟩
  · have heq : l.lanes = x.dtype.lanes := hlanes.trans (DType.isScalar_iff.mp hs).symm
    obtain ⟨rfl, rfl⟩ := gives_coerceLanes_of_eq heq hrhs
    exact ⟨rfl, rfl⟩
  · have hne : l.lanes ≠ x.dtype.lanes := fun h =>
      Bool.eq_false_iff.mp hs (DType.isScalar_iff.mpr (h.symm.trans hlanes))
    have hj : l.dtype.withLanes x.dtype.lanes = x.dtype := DType.eq_of_element_eq hel rfl
    obtain ⟨rfl, rfl⟩ := gives_coerceLanes_of_ne hne hrhs
    refine ⟨⟨_, hj, rfl⟩, ?_⟩
    rw [he]
    rfl

end Operator

/-! ### The negative -/

namespace Build

variable {x : Expr}

theorem run_neg (x : Expr) (s : Session) :
    (neg x).run.run s = ((Operator.binary .mul).build x
      (.ofScalar ⟨s.next, x.dtype.element⟩ (.int64 (-1)))).run.run { s with next := s.next + 1 } :=
  rfl

theorem run_neg_of_isHandle (hh : x.dtype.isHandle) (s : Session) :
    (neg x).run.run s =
      (.error (.dtypeMismatch "mul" x.dtype x.dtype), { s with next := s.next + 1 }) := by
  have hcheck (t : DType) : BinaryOp.mul.check x.dtype t =
      .error (.dtypeMismatch "mul" x.dtype x.dtype) := by
    rw [BinaryOp.check, hh]
    rfl
  rw [run_neg]
  exact Operator.run_build_error (Operator.operandType_of_check_error (hcheck _))

theorem exists_neg (hx : x.dtype.Valid) (hh : x.dtype.isHandle = false) (s : Session) :
    ∃ i l rhs s', Yields (neg x) s (.binary i .mul x rhs) s' ∧ i.dtype = x.dtype ∧
      l.MinusOne x.dtype.element ∧
      (x.dtype.isScalar → rhs = l ∧ s'.notes = s.notes) ∧
      (x.dtype.isScalar = false → (∃ j, j.dtype = x.dtype ∧ rhs = .broadcast j l) ∧
        s'.notes = s.notes ++ [.implicitBroadcast x.dtype.element x.lanes]) := by
  have htakes {d : DType} (hd : d.isHandle = false) : (Operator.binary .mul).Takes d :=
    (Operator.takes_iff_of_isArithmetic rfl).mpr hd
  let i : NodeInfo := ⟨s.next, x.dtype.element⟩
  have hl : (Expr.ofScalar i (.int64 (-1))).MinusOne i.dtype :=
    Expr.ofScalar_minusOne hx.element hh
  have htype : (Expr.ofScalar i (.int64 (-1))).dtype = i.dtype := Expr.dtype_ofScalar _ _
  obtain ⟨k, rhs, s', hrun, hk, hscalar, hvector⟩ := Operator.exists_node_beside
    (htakes hh) (htype ▸ htakes hh) hh htype { s with next := s.next + 1 }
  exact ⟨k, _, rhs, s', hrun, hk, hl, hscalar, hvector⟩

end Build

/-- **Negation is exact.** Handles are refused. The negative of anything else is a product
of its type, of `x` itself and a literal of its lane type that stands for -1, repeated over
the lanes of `x` if they are several, which the journal tells; no cast is put in. As a word
of its type an integer literal of this kind takes each word to its negative. -/
theorem negation_exact {x : Expr} (hx : x.dtype.Valid) :
    (x.dtype.isHandle → ∀ s, (neg x).run.run s =
      (.error (.dtypeMismatch "mul" x.dtype x.dtype), { s with next := s.next + 1 })) ∧
    (x.dtype.isHandle = false → ∀ s, ∃ i l rhs s',
      Yields (neg x) s (.binary i .mul x rhs) s' ∧ i.dtype = x.dtype ∧
      l.MinusOne x.dtype.element ∧
      (x.dtype.isScalar → rhs = l ∧ s'.notes = s.notes) ∧
      (x.dtype.isVector → (∃ j, j.dtype = x.dtype ∧ rhs = .broadcast j l) ∧
        s'.notes = s.notes ++ [.implicitBroadcast x.dtype.element x.lanes]) ∧
      ∀ j y, (Expr.cast j y).Occurs (.binary i .mul x rhs) → (Expr.cast j y).Occurs x) ∧
    ∀ d i v, (Expr.intImm i v).MinusOne d →
      ∀ y : BitVec d.bits.toNat, y * .ofInt _ (d.denote v) = -y := by
  refine ⟨run_neg_of_isHandle, fun hh s => ?_, fun d i v h => h.mul_eq_neg⟩
  obtain ⟨i, l, rhs, s', hrun, hi, hl, hscalar, hvector⟩ := exists_neg hx hh s
  have hrhs : ∀ j y, ¬ (Expr.cast j y).Occurs rhs := by
    intro j y
    cases hs : x.dtype.isScalar with
    | true =>
      rw [(hscalar hs).1]
      exact hl.not_cast
    | false =>
      obtain ⟨⟨k, -, rfl⟩, -⟩ := hvector hs
      exact hl.not_cast_broadcast
  refine ⟨i, l, rhs, s', hrun, hi, hl, hscalar, fun hv => hvector ?_, fun j y h => ?_⟩
  · simpa [hx.isVector_eq] using hv
  · rcases Expr.occurs_iff.mp h with hcast | ⟨z, hz, hocc⟩
    · cases hcast
    · rcases List.mem_cons.mp hz with rfl | hz
      · exact hocc
      · obtain rfl := List.mem_singleton.mp hz
        exact absurd hocc (hrhs j y)

/-- Truth values over four lanes, a buffer, and the literal of `uint64`. -/
theorem vectorFlag_negated :
    World.vectorFlag.dtype.Valid ∧ World.vectorFlag.dtype.isHandle = false ∧
    (∃ i j l s', Yields (neg World.vectorFlag) {}
        (.binary i .mul World.vectorFlag (.broadcast j l)) s' ∧
      l.MinusOne (.bool 1) ∧ s'.notes = [.implicitBroadcast (.bool 1) 4]) ∧
    World.buffer.dtype.Valid ∧ World.buffer.dtype.isHandle ∧
    (neg World.buffer).run.run {} =
      (.error (.dtypeMismatch "mul" .handle .handle), { next := 1 }) ∧
    (Expr.intImm ⟨0, .uint 64⟩ (-1)).MinusOne (.uint 64) ∧
    ∀ y : BitVec 64, y * .ofInt 64 ((DType.uint 64).denote (-1)) = -y := by
  have hflag : World.vectorFlag.dtype.Valid := by decide
  have hbuffer : World.buffer.dtype.Valid := by decide
  have hword : (Expr.intImm ⟨0, .uint 64⟩ (-1)).MinusOne (.uint 64) :=
    ⟨rfl, ⟨by decide, by decide⟩, by decide⟩
  obtain ⟨-, hnegated, hproduct⟩ := negation_exact hflag
  obtain ⟨i, l, rhs, s', hrun, -, hl, -, hvector, -⟩ := hnegated rfl {}
  obtain ⟨⟨j, -, rfl⟩, hnotes⟩ := hvector rfl
  exact ⟨hflag, rfl, ⟨i, j, l, s', hrun, hl, hnotes⟩, hbuffer, rfl,
    (negation_exact hbuffer).1 rfl {}, hword, hproduct _ _ _ hword⟩

end Lanewise
