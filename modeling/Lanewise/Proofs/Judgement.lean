/-
# The typing judgement of the operators

Which operands a builder with two operands accepts, which error it gives for the
others, and which types the node and its operands have. It is decided by the
operands' types and by which of them are literals: first the operator looks at
each operand alone, then the two are brought together, if they are reconcilable.

Key definitions: `Operator.Settles`, `Operator.Judged`.
Key theorems: `Operator.build_yields`, `Operator.operandType_of_build_error`, `build_judgement`.
-/
import Lanewise.Proofs.Conversion
import Lanewise.Proofs.Reachable

namespace Lanewise

namespace Operator

open Build

variable {op : Operator} {a b r : Expr} {d : DType} {s s' : Session}

theorem run_build_error {err : BuildError} (h : op.operandType a b = .error err) :
    (op.build a b).run.run s = (.error err, s) := by
  rw [op.build_eq, h]
  rfl

/-- A successful build, step by step, with the sessions between the steps. -/
theorem build_steps (h : Yields (op.build a b) s r s') :
    ∃ d lhs rhs s₁ s₂, op.operandType a b = .ok d ∧ Gives (coerce d a) s lhs s₁ ∧
      Gives (coerce d b) s₁ rhs s₂ ∧ r = op.node ⟨s₂.next, op.resultType d⟩ lhs rhs ∧
      s' = { s₂ with next := s₂.next + 1 } := by
  rw [op.build_eq] at h
  obtain ⟨d, s₀, hcheck, hrest⟩ := yields_bind.mp h
  obtain ⟨hd, hs⟩ := yields_check.mp hcheck
  obtain ⟨lhs, s₁, hl, hrest⟩ := yields_bind.mp hrest
  obtain ⟨rhs, s₂, hr, hrest⟩ := yields_bind.mp hrest
  cases hrest
  refine ⟨d, lhs, rhs, s₁, s₂, hd, ?_, yields_lift.mp hr, rfl, rfl⟩
  rw [← hs]
  exact yields_lift.mp hl

/-- What a successful build is made of. -/
theorem build_yields (h : Yields (op.build a b) s r s') :
    ∃ d lhs rhs i s₁ s₂, op.operandType a b = .ok d ∧ Gives (coerce d a) s lhs s₁ ∧
      Gives (coerce d b) s₁ rhs s₂ ∧ i.dtype = op.resultType d ∧ r = op.node i lhs rhs := by
  obtain ⟨d, lhs, rhs, s₁, s₂, hd, hl, hr, hnode, -⟩ := build_steps h
  exact ⟨d, lhs, rhs, _, s₁, s₂, hd, hl, hr, rfl, hnode⟩

theorem exists_build (h : op.operandType a b = .ok d) (s : Session) :
    ∃ r s', Yields (op.build a b) s r s' := by
  rw [op.build_eq, h]
  exact ⟨_, _, rfl⟩

/-- A builder with two operands fails only where it asks for their type. -/
theorem operandType_of_build_error {err : BuildError}
    (h : ((op.build a b).run.run s).1 = .error err) : op.operandType a b = .error err := by
  cases hop : op.operandType a b with
  | error err' =>
    rw [run_build_error hop] at h
    exact congrArg Except.error (Except.error.inj h)
  | ok d =>
    obtain ⟨r, s', hrun⟩ := exists_build hop s
    cases (congrArg Prod.fst hrun).symm.trans h

/-! ### The judgement -/

/-- The outcome for operands that the operator takes: it depends on whether they
are reconcilable. -/
def Settles (op : Operator) (a b : Expr) (out : Except BuildError Expr) : Prop :=
  (a.Reconcilable b → ∃ i lhs rhs, out = .ok (op.node i lhs rhs) ∧
    i.dtype = op.resultType (a.joined b) ∧ lhs.dtype = a.joined b ∧ rhs.dtype = a.joined b) ∧
  (¬ a.Reconcilable b → ∃ t u, out = .error (.dtypeMismatch op.name t u))

/-- The outcome of a builder on the operands `a` and `b`. -/
def Judged (op : Operator) (a b : Expr) (out : Except BuildError Expr) : Prop :=
  match op with
  | binary f =>
    if f.isComparison = false ∧ (a.dtype.isHandle ∨ b.dtype.isHandle) then
      ∃ t u, out = .error (.dtypeMismatch f.name t u)
    else
      ((∃ d, out = .error (.logicalOperand f.name d)) ↔
        f.isLogical ∧ ¬ (a.dtype.isBool ∧ b.dtype.isBool)) ∧
      (¬ (f.isLogical ∧ ¬ (a.dtype.isBool ∧ b.dtype.isBool)) → op.Settles a b out)
  | bitwise f =>
    ((∃ d, out = .error (.bitwiseOperand f.name d)) ↔
      ¬ (a.dtype.isIntegral ∧ b.dtype.isIntegral)) ∧
    (a.dtype.isIntegral ∧ b.dtype.isIntegral → op.Settles a b out)

theorem settles_of_operandType (ha : a.NodeTyped) (hb : b.NodeTyped)
    (h : op.operandType a b = commonType op.name a b) :
    op.Settles a b ((op.build a b).run.run s).1 := by
  rw [commonType_eq op.name ha hb] at h
  constructor
  · intro hr
    rw [if_pos hr] at h
    obtain ⟨r, s', hrun⟩ := exists_build h s
    obtain ⟨d, lhs, rhs, i, s₁, s₂, hd, hl, hrhs, hi, rfl⟩ := build_yields hrun
    obtain rfl : a.joined b = d := Except.ok.inj (h.symm.trans hd)
    exact ⟨i, lhs, rhs, congrArg Prod.fst hrun, hi, coerce_dtype hl, coerce_dtype hrhs⟩
  · intro hr
    rw [if_neg hr] at h
    rw [run_build_error h]
    exact ⟨_, _, rfl⟩

/-- What is settled fails with a mismatch of types only. -/
theorem Settles.mismatch {out : Except BuildError Expr} {err : BuildError}
    (h : op.Settles a b out) (herr : out = .error err) :
    ∃ t u, err = .dtypeMismatch op.name t u := by
  by_cases hr : a.Reconcilable b
  · obtain ⟨i, lhs, rhs, hout, -⟩ := h.1 hr
    rw [hout] at herr
    simp at herr
  · obtain ⟨t, u, hout⟩ := h.2 hr
    rw [hout] at herr
    exact ⟨t, u, (Except.error.inj herr).symm⟩

theorem check_handle {f : BinaryOp} {t u : DType} (hc : f.isComparison = false)
    (hh : t.isHandle ∨ u.isHandle) : ∃ v w, f.check t u = .error (.dtypeMismatch f.name v w) := by
  have hcond : (!f.isComparison && (t.isHandle || u.isHandle)) = true := by
    rcases hh with hh | hh <;> simp [hc, hh]
  exact ⟨_, _, if_pos hcond⟩

theorem check_not_bool {f : BinaryOp} {t u : DType}
    (hh : ¬ (f.isComparison = false ∧ (t.isHandle ∨ u.isHandle))) (hl : f.isLogical)
    (hb : ¬ (t.isBool ∧ u.isBool)) : ∃ d, f.check t u = .error (.logicalOperand f.name d) := by
  have hcond : ¬ (!f.isComparison && (t.isHandle || u.isHandle)) = true := by
    simpa using hh
  unfold BinaryOp.check
  rw [if_neg hcond]
  by_cases ht : t.isBool
  · have hu : u.isBool = false := by simpa [ht] using hb
    exact ⟨u, by simp [hl, ht, hu]⟩
  · exact ⟨t, by simp [hl, ht]⟩

theorem takes_of_not_refused {f : BinaryOp} {t u : DType}
    (hh : ¬ (f.isComparison = false ∧ (t.isHandle ∨ u.isHandle)))
    (hl : ¬ (f.isLogical ∧ ¬ (t.isBool ∧ u.isBool))) :
    (binary f).Takes t ∧ (binary f).Takes u := by
  have hb : f.isLogical → t.isBool ∧ u.isBool := fun h => by
    by_contra hb
    exact hl ⟨h, hb⟩
  refine ⟨⟨fun hc => ?_, fun h => (hb h).1⟩, fun hc => ?_, fun h => (hb h).2⟩
  · rw [Bool.eq_false_iff]
    exact fun ht => hh ⟨hc, .inl ht⟩
  · rw [Bool.eq_false_iff]
    exact fun hu => hh ⟨hc, .inr hu⟩

theorem bitwise_not_integral {f : BitwiseOp} (h : ¬ (a.dtype.isIntegral ∧ b.dtype.isIntegral)) :
    ∃ d, (bitwise f).operandType a b = .error (.bitwiseOperand f.name d) := by
  show ∃ d, BitwiseOp.operandType f a b = _
  unfold BitwiseOp.operandType
  by_cases ha : a.dtype.isIntegral
  · have hb : b.dtype.isIntegral = false := by simpa [ha] using h
    exact ⟨b.dtype, by simp [ha, hb]⟩
  · exact ⟨a.dtype, by simp [ha]⟩

theorem operandType_of_check_error {f : BinaryOp} {err : BuildError}
    (h : f.check a.dtype b.dtype = .error err) : (binary f).operandType a b = .error err := by
  show f.check a.dtype b.dtype >>= _ = _
  rw [h]
  rfl

theorem operandType_of_takes (ha : op.Takes a.dtype) (hb : op.Takes b.dtype) :
    op.operandType a b = commonType op.name a b := by
  cases op with
  | binary f =>
    have h : f.check a.dtype b.dtype = .ok () := check_eq_ok_iff.mpr ⟨ha, hb⟩
    show f.check a.dtype b.dtype >>= _ = _
    rw [h]
    rfl
  | bitwise f =>
    have ha' : a.dtype.isIntegral = true := ha
    have hb' : b.dtype.isIntegral = true := hb
    show BitwiseOp.operandType f a b = _
    simp [BitwiseOp.operandType, ha', hb', name]

theorem judged_binary (f : BinaryOp) (ha : a.NodeTyped) (hb : b.NodeTyped) :
    (binary f).Judged a b (((binary f).build a b).run.run s).1 := by
  unfold Judged
  by_cases hh : f.isComparison = false ∧ (a.dtype.isHandle ∨ b.dtype.isHandle)
  · obtain ⟨t, u, hcheck⟩ := check_handle hh.1 hh.2
    simp only [hh, and_self, if_true]
    rw [run_build_error (operandType_of_check_error hcheck)]
    exact ⟨t, u, rfl⟩
  · simp only [hh, if_false]
    by_cases hl : f.isLogical ∧ ¬ (a.dtype.isBool ∧ b.dtype.isBool)
    · obtain ⟨d, hcheck⟩ := check_not_bool hh hl.1 hl.2
      rw [run_build_error (operandType_of_check_error hcheck)]
      exact ⟨⟨fun _ => hl, fun _ => ⟨d, rfl⟩⟩, fun hn => absurd hl hn⟩
    · obtain ⟨ha', hb'⟩ := takes_of_not_refused hh hl
      have hset := settles_of_operandType (s := s) ha hb (operandType_of_takes ha' hb')
      refine ⟨⟨fun ⟨d, hd⟩ => ?_, fun hl' => absurd hl' hl⟩, fun _ => hset⟩
      obtain ⟨t, u, herr⟩ := hset.mismatch hd
      simp at herr

theorem judged_bitwise (f : BitwiseOp) (ha : a.NodeTyped) (hb : b.NodeTyped) :
    (bitwise f).Judged a b (((bitwise f).build a b).run.run s).1 := by
  unfold Judged
  by_cases hi : a.dtype.isIntegral ∧ b.dtype.isIntegral
  · have ha' : (bitwise f).Takes a.dtype := hi.1
    have hb' : (bitwise f).Takes b.dtype := hi.2
    have hset := settles_of_operandType (s := s) ha hb (operandType_of_takes ha' hb')
    refine ⟨⟨fun ⟨d, hd⟩ => ?_, fun hn => absurd hi hn⟩, fun _ => hset⟩
    obtain ⟨t, u, herr⟩ := hset.mismatch hd
    simp at herr
  · obtain ⟨d, herr⟩ := bitwise_not_integral (f := f) hi
    rw [run_build_error herr]
    exact ⟨⟨fun _ => hi, fun _ => ⟨d, rfl⟩⟩, fun h' => absurd h' hi⟩

end Operator

/-- **The typing judgement.** For each operator and any two expressions of a run,
whatever is built from them next. -/
theorem build_judgement {w : World} (h : Reachable w) {a b : Expr} (ha : w.Has a) (hb : w.Has b)
    (op : Operator) (s : Session) : op.Judged a b ((op.build a b).run.run s).1 := by
  have hta : a.NodeTyped := h.nodeTyped ha
  have htb : b.NodeTyped := h.nodeTyped hb
  cases op with
  | binary f => exact Operator.judged_binary f hta htb
  | bitwise f => exact Operator.judged_bitwise f hta htb

/-- A vector times a number. -/
theorem products_judgement : Reachable World.products ∧ World.products.Has World.vector ∧
    World.products.Has World.three ∧ World.times.Judged World.vector World.three
      ((World.times.build World.vector World.three).run.run {}).1 :=
  ⟨World.reachable_products, World.products_has_vector, World.products_has_three,
    build_judgement World.reachable_products World.products_has_vector World.products_has_three
      World.times {}⟩

end Lanewise
