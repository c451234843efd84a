/-
# One operator again and again

The value so far is combined with the same operand in each step, on either side of
it, or with itself. The first step may write a literal anew, cast or repeat, and
after it the value so far is a node of the operator, of the type that the operands
were brought to. From there on nothing changes: next to the operand such a node has
that type again, whichever of the two decided it (`Build.commonType_absorb_left`).
Which operator asks does not count, as long as it takes the same operands, which
all arithmetic does. A run is an induction on the list of operators, and it is
carried by the type that the next step brings its operands to.

Key definitions: `Operator.TakesTurns`, `Repetition`, `Repetition.chain`.
Key theorems: `Build.commonType_absorb_left`, `Repetition.operandType_absorb`,
`Repetition.exists_chain`, `repetition_stable`.
-/
import Lanewise.Proofs.Handles
import Lanewise.Proofs.ImplicitCast
import Lanewise.Proofs.Promotion

namespace Lanewise

/-! ### Common types again -/

/-- The operation is named in errors only. -/
theorem DType.promote_ok_of_ok {op op' : String} {s t d : DType} (h : promote op s t = .ok d) :
    promote op' s t = .ok d :=
  promote_eq_ok_iff.mpr (promote_eq_ok_iff.mp h)

namespace Build

open Lanewise.Expr

variable {name name' : String} {a y z : Expr} {d t : DType}

theorem adapts?_eq_none (h : z.number? = none) : z.adapts? t = none := by
  rw [Option.eq_none_iff_forall_ne_some]
  intro v hv
  exact absurd ((number?_of_adapts? hv).symm.trans h) (Option.some_ne_none v)

theorem commonType_ok_of_ok (h : commonType name a y = .ok d) : commonType name' a y = .ok d := by
  have hpromote : DType.promote name a.dtype y.dtype = .ok d →
      DType.promote name' a.dtype y.dtype = .ok d := DType.promote_ok_of_ok
  unfold commonType at h ⊢
  grind

/-! What has the common type, and is no literal, may stand for the operand that was
brought to it. If the operand `y` has the common type, there is nothing left to do.
Else `a` has it, and `z` differs from `a` only in that it follows no other type. -/

theorem commonType_absorb_left (h : commonType name a y = .ok d) (hz : z.dtype = d)
    (hn : z.number? = none) : commonType name z y = .ok d := by
  by_cases hdy : d = y.dtype
  · exact (Operator.commonType_of_dtype_eq name (hz.trans hdy)).trans (congrArg Except.ok hz)
  · have hda : a.dtype = d := ((fits_of_commonType h).1.resolve_right hdy).symm
    unfold commonType at h ⊢
    simp only [hda] at h
    simp only [hz, adapts?_eq_none hn]
    by_cases hl : d.lanes ≠ y.dtype.lanes
    · rwa [if_pos hl] at h ⊢
    · rw [if_neg hl] at h ⊢
      by_cases hy : (y.adapts? d.element).isSome
      · rw [if_pos hy]
      · rw [if_neg hy] at h ⊢
        by_cases ha : (a.adapts? y.dtype.element).isSome
        · rw [if_pos ha] at h
          exact absurd (Except.ok.inj h).symm hdy
        · rwa [if_neg ha] at h

theorem commonType_absorb_right (h : commonType name y a = .ok d) (hz : z.dtype = d)
    (hn : z.number? = none) : commonType name y z = .ok d := by
  by_cases hdy : d = y.dtype
  · exact (Operator.commonType_of_dtype_eq name (hdy.symm.trans hz.symm)).trans
      (congrArg Except.ok hdy.symm)
  · have hda : a.dtype = d := ((fits_of_commonType h).1.resolve_left hdy).symm
    unfold commonType at h ⊢
    simp only [hda] at h
    simp only [hz, adapts?_eq_none hn]
    by_cases hl : y.dtype.lanes ≠ d.lanes
    · rwa [if_pos hl] at h ⊢
    · rw [if_neg hl] at h ⊢
      by_cases ha : (a.adapts? y.dtype.element).isSome
      · rw [if_pos ha] at h
        exact absurd (Except.ok.inj h).symm hdy
      · rwa [if_neg ha] at h

end Build

/-! ### Operators in turn -/

namespace Operator

open Build

variable {op o : Operator} {a b r : Expr} {d : DType} {s s' : Session}

/-- The operator takes numbers of any type and gives a number of that type. -/
def isArithmetic : Operator → Bool
  | binary f => !f.isComparison && !f.isLogical
  | bitwise _ => false

/-- In a repetition of `op`, a step may be one of `o`. -/
def TakesTurns (op o : Operator) : Prop := o = op ∨ op.isArithmetic ∧ o.isArithmetic

theorem isArithmetic_binary_iff {f : BinaryOp} :
    (binary f).isArithmetic ↔ f.isComparison = false ∧ f.isLogical = false := by
  simp [isArithmetic]

theorem takes_iff_of_isArithmetic (h : op.isArithmetic) : op.Takes d ↔ d.isHandle = false := by
  cases op with
  | binary f =>
    obtain ⟨hc, hl⟩ := isArithmetic_binary_iff.mp h
    refine ⟨fun ht => ht.1 hc, fun hd => ⟨fun _ => hd, fun hlogical => ?_⟩⟩
    exact absurd (hl.symm.trans hlogical) Bool.false_ne_true
  | bitwise f => cases h

theorem TakesTurns.takes (h : op.TakesTurns o) (ht : op.Takes d) : o.Takes d := by
  rcases h with rfl | ⟨hop, ho⟩
  · exact ht
  · exact (takes_iff_of_isArithmetic ho).mpr ((takes_iff_of_isArithmetic hop).mp ht)

theorem TakesTurns.isComparison (h : op.TakesTurns o) (hc : op.isComparison = false) :
    o.isComparison = false := by
  rcases h with rfl | ⟨-, ho⟩
  · exact hc
  · cases o with
    | binary f => exact (isArithmetic_binary_iff.mp ho).1
    | bitwise f => rfl

/-- The operators bring their operands to one type. -/
theorem TakesTurns.operandType (h : op.TakesTurns o) (hd : op.operandType a b = .ok d) :
    o.operandType a b = .ok d := by
  obtain ⟨⟨hta, htb⟩, hcommon⟩ := operandType_eq_ok_iff.mp hd
  exact operandType_eq_ok_iff.mpr ⟨⟨h.takes hta, h.takes htb⟩, commonType_ok_of_ok hcommon⟩

/-- An operator that is no comparison makes a node of its operands' type. -/
theorem operandType_of_yields (hc : op.isComparison = false) (h : Yields (op.build a b) s r s') :
    op.operandType a b = .ok r.dtype ∧ r.number? = none := by
  obtain ⟨d, lhs, rhs, i, -, -, hd, -, -, hi, rfl⟩ := build_yields h
  cases op with
  | binary f =>
    have hf : f.isComparison = false := hc
    have hi' : i.dtype = d := hi.trans (if_neg (Bool.eq_false_iff.mp hf))
    exact ⟨hd.trans (congrArg Except.ok hi'.symm), rfl⟩
  | bitwise f => exact ⟨hd.trans (congrArg Except.ok hi.symm), rfl⟩

end Operator

/-! ### Repetitions -/

/-- How the value so far is used in each step. -/
inductive Repetition where
  /-- It is the left operand, next to `y`. -/
  | left (y : Expr)
  /-- It is the right operand, next to `y`. -/
  | right (y : Expr)
  /-- It is both operands. -/
  | double

namespace Repetition

open Build

/-- `f` of the value so far, `acc`, and what stands next to it. -/
def apply {α : Type} (f : Expr → Expr → α) (acc : Expr) : Repetition → α
  | left y => f acc y
  | right y => f y acc
  | double => f acc acc

/-- One step after the other, from the value `acc`: all values that are built. -/
def chain (rep : Repetition) (acc : Expr) : List Operator → BuildM (List Expr)
  | [] => return []
  | op :: ops => do
    let next ← rep.apply op.build acc
    return next :: (← rep.chain next ops)

variable {op : Operator} {a r z : Expr} {d : DType} {s s' : Session}

/-- A value of the type that the operands are brought to, which is no literal, is
brought to that type again. -/
theorem operandType_absorb (rep : Repetition) (h : rep.apply op.operandType a = .ok d)
    (hz : z.dtype = d) (hn : z.number? = none) : rep.apply op.operandType z = .ok d := by
  have htakes : op.Takes z.dtype := by
    rw [hz]
    cases rep <;> exact Operator.takes_of_operandType h
  cases rep with
  | left y =>
    obtain ⟨⟨-, hy⟩, hcommon⟩ := Operator.operandType_eq_ok_iff.mp h
    exact Operator.operandType_eq_ok_iff.mpr ⟨⟨htakes, hy⟩, commonType_absorb_left hcommon hz hn⟩
  | right y =>
    obtain ⟨⟨hy, -⟩, hcommon⟩ := Operator.operandType_eq_ok_iff.mp h
    exact Operator.operandType_eq_ok_iff.mpr ⟨⟨hy, htakes⟩, commonType_absorb_right hcommon hz hn⟩
  | double =>
    have hcommon : commonType op.name z z = .ok d :=
      (Operator.commonType_of_dtype_eq op.name rfl).trans (congrArg Except.ok hz)
    exact Operator.operandType_eq_ok_iff.mpr ⟨⟨htakes, htakes⟩, hcommon⟩

/-- One step, by an operator that takes turns with `op`. -/
theorem exists_step (rep : Repetition) {o : Operator} (hc : op.isComparison = false)
    (ho : op.TakesTurns o) (h : rep.apply op.operandType a = .ok d) (s : Session) :
    ∃ z s', Yields (rep.apply o.build a) s z s' ∧ z.dtype = d ∧ z.number? = none := by
  have hbuild : ∀ x y, op.operandType x y = .ok d →
      ∃ z s', Yields (o.build x y) s z s' ∧ z.dtype = d ∧ z.number? = none := fun x y hxy => by
    have htype : o.operandType x y = .ok d := ho.operandType hxy
    obtain ⟨z, s', hz⟩ := Operator.exists_build htype s
    obtain ⟨hd, hn⟩ := Operator.operandType_of_yields (ho.isComparison hc) hz
    exact ⟨z, s', hz, Except.ok.inj (hd.symm.trans htype), hn⟩
  cases rep with
  | left y => exact hbuild a y h
  | right y => exact hbuild y a h
  | double => exact hbuild a a h

/-- All steps: the next one brings its operands to the same type again. -/
theorem exists_chain (rep : Repetition) (hc : op.isComparison = false) {ops : List Operator}
    (hops : ∀ o ∈ ops, op.TakesTurns o) (h : rep.apply op.operandType a = .ok d) (s : Session) :
    ∃ zs s', Yields (rep.chain a ops) s zs s' ∧ zs.length = ops.length ∧
      ∀ z ∈ zs, z.dtype = d := by
  induction ops generalizing a s with
  | nil => exact ⟨[], s, rfl, rfl, List.forall_mem_nil _⟩
  | cons o os ih =>
    obtain ⟨ho, hos⟩ := List.forall_mem_cons.mp hops
    obtain ⟨z, s₁, hz, hd, hn⟩ := rep.exists_step hc ho h s
    -- the step may be of another operator, but what `op` would do next is as before
    obtain ⟨zs, s', hzs, hlen, hds⟩ := ih hos (rep.operandType_absorb h hd hn) s₁
    refine ⟨z :: zs, s', ?_, congrArg (· + 1) hlen, List.forall_mem_cons.mpr ⟨hd, hds⟩⟩
    exact yields_bind.mpr ⟨z, s₁, hz, yields_bind.mpr ⟨zs, s', hzs, rfl⟩⟩

end Repetition

open Build

/-- **Repetition keeps the type and never starts to fail.** When an operator that is
no comparison goes through once, then in a chain of any length every step goes
through and gives the type of the first one, from whatever session: with the value
so far on the left of the operand, on its right, or on both sides, where the type is
that of the value itself. The steps may be of different operators if all are
arithmetic. -/
theorem repetition_stable (rep : Repetition) {op : Operator} (hc : op.isComparison = false)
    {a r : Expr} {s s' : Session} (h : Yields (rep.apply op.build a) s r s') :
    (rep = .double → r.dtype = a.dtype) ∧
    ∀ ops : List Operator, (∀ o ∈ ops, op.TakesTurns o) → ∀ t, ∃ zs t',
      Yields (rep.chain a ops) t zs t' ∧ zs.length = ops.length ∧ ∀ z ∈ zs, z.dtype = r.dtype := by
  have htype : rep.apply op.operandType a = .ok r.dtype := by
    cases rep <;> exact (Operator.operandType_of_yields hc h).1
  refine ⟨?_, fun ops hops t => rep.exists_chain hc hops htype t⟩
  rintro rfl
  have hcommon := (Operator.operandType_eq_ok_iff.mp htype).2
  exact (fits_of_commonType hcommon).1.elim id id

/-- A vector is multiplied by a number, then the number is taken from it, and then
the greater of the two is chosen. -/
theorem vector_repetition : World.times.isComparison = false ∧ ∃ r s',
    Yields ((Repetition.left World.three).apply World.times.build World.vector) {} r s' ∧
    (∀ o ∈ [World.times, .binary .sub, .binary .max], World.times.TakesTurns o) ∧ ∃ zs t',
    Yields ((Repetition.left World.three).chain World.vector
      [World.times, .binary .sub, .binary .max]) {} zs t' ∧
    zs.length = 3 ∧ ∀ z ∈ zs, z.dtype = r.dtype := by
  have hturns : ∀ o ∈ [World.times, .binary .sub, .binary .max], World.times.TakesTurns o :=
    List.forall_mem_cons.mpr ⟨.inl rfl, List.forall_mem_cons.mpr ⟨.inr ⟨rfl, rfl⟩,
      List.forall_mem_singleton.mpr (.inr ⟨rfl, rfl⟩)⟩⟩
  have hno : World.times.isComparison = false := rfl
  obtain ⟨r, s', hr⟩ : ∃ r s', Yields ((Repetition.left World.three).apply World.times.build
      World.vector) {} r s' := ⟨_, _, rfl⟩
  exact ⟨hno, r, s', hr, hturns, (repetition_stable (.left World.three) hno hr).2 _ hturns {}⟩

end Lanewise
