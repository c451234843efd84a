/-
# What a refusal tells of the operands

An operator that refuses its operands says which operation it was and shows types: both
operands' in a mismatch, or that of the first operand that is of the wrong kind. A
mismatch is found in several places, by the operator itself, from the lanes and in
promotion. All but one show the operands as they were passed. The exception is the
rule that only comparisons take handles: it shows the left operand and the handle that
it found first, so a handle on the left, beside something else, is shown twice
(`Operator.RepeatsHandle`).

Key definitions: `BuildError.Describes`, `Operator.RepeatsHandle`.
Key theorems: `Operator.Refuses.describes`, `refusal_describes_iff`.
-/
import Lanewise.Proofs.Failure
import Lanewise.Proofs.Handles

namespace Lanewise

/-- The error is about the operation `name` on operands of the types `s` and `t`. -/
def BuildError.Describes (name : String) (s t : DType) : BuildError → Prop
  | dtypeMismatch op u v => op = name ∧ u = s ∧ v = t
  | logicalOperand op d => op = name ∧ DType.FirstBreaking DType.isBool s t d
  | bitwiseOperand op d => op = name ∧ DType.FirstBreaking DType.isIntegral s t d
  | complementOperand _ | intrinsicOperand .. | ambiguousTruth _ | noConditions _ | unknownField ..
  | notVariable .. | unsupportedType .. | unreadableType _ => False

/-- The operator takes no handle, and of the operands the left one only is a handle. -/
def Operator.RepeatsHandle : Operator → DType → DType → Prop
  | binary f, s, t => f.isComparison = false ∧ s.isHandle ∧ t.isHandle = false
  | bitwise _, _, _ => False

instance : (op : Operator) → (s t : DType) → Decidable (op.RepeatsHandle s t)
  | .binary f, s, t =>
    inferInstanceAs (Decidable (f.isComparison = false ∧ s.isHandle ∧ t.isHandle = false))
  | .bitwise _, _, _ => inferInstanceAs (Decidable False)

variable {s t : DType} {err : BuildError}

/-- There is one handle type. -/
theorem DType.Valid.eq_handle (h : s.Valid) (hh : s.isHandle) : s = .handle := by
  have hcode : s.code = .handle := isHandle_iff.mp hh
  obtain ⟨hbits, -, hlanes⟩ := h
  rw [hcode] at hbits
  have hbits : s.bits = 64 := List.mem_singleton.mp hbits
  calc s = ⟨s.code, s.bits, s.lanes⟩ := rfl
    _ = handle := by rw [hcode, hbits, hlanes hcode]; rfl

namespace Operator

variable {op : Operator} {a b : Expr}

/-- The handle shown on the right is not what stands there. -/
theorem RepeatsHandle.dtype_ne (h : op.RepeatsHandle s t) : t ≠ s := by
  rintro rfl
  cases op with
  | binary f =>
    obtain ⟨-, hs, ht⟩ := h
    rw [hs] at ht
    cases ht
  | bitwise f => cases h

theorem operandType_of_repeatsHandle (h : op.RepeatsHandle a.dtype b.dtype) :
    op.operandType a b = .error (.dtypeMismatch op.name a.dtype a.dtype) := by
  cases op with
  | binary f =>
    obtain ⟨hc, ha, -⟩ := h
    have hcond : (!f.isComparison && (a.dtype.isHandle || b.dtype.isHandle)) = true := by
      simp [hc, ha]
    refine operandType_of_check_error ?_
    rw [BinaryOp.check, if_pos hcond, if_pos ha]
    rfl
  | bitwise f => cases h

/-- An error of an operator describes the operands, but for the handle that is repeated. -/
theorem Refuses.describes (h : op.Refuses s t err) (hs : s.Valid) (ht : t.Valid)
    (hn : ¬ op.RepeatsHandle s t) : err.Describes op.name s t := by
  cases h with
  | handle f hc hh =>
    -- the handle that is shown is the right operand, or of its type
    have hshown : (if s.isHandle then s else t) = t := by
      split
      · next hsh =>
        have hth : t.isHandle := by
          by_contra hth
          exact hn ⟨hc, hsh, Bool.eq_false_iff.mpr hth⟩
        rw [hs.eq_handle hsh, ht.eq_handle hth]
      · rfl
    exact ⟨rfl, rfl, hshown⟩
  | logical f hd => exact ⟨rfl, hd⟩
  | bitwise f hd => exact ⟨rfl, hd⟩
  | mismatch => exact ⟨rfl, rfl, rfl⟩

end Operator

/-- **What a refusal tells.** When an operator refuses two expressions of a run, its error
tells the operation and both operands' types, or the type of the first operand that is of
the wrong kind, unless a handle is on the left of something else and the operator takes no
handles. Then the operands are refused too, but the handle is shown on both sides. -/
theorem refusal_describes_iff {w : World} (h : Reachable w) {a b : Expr} (ha : w.Has a)
    (hb : w.Has b) (op : Operator) (s : Session) :
    (∀ err, ((op.build a b).run.run s).1 = .error err →
      (err.Describes op.name a.dtype b.dtype ↔ ¬ op.RepeatsHandle a.dtype b.dtype)) ∧
    (op.RepeatsHandle a.dtype b.dtype → ((op.build a b).run.run s).1 =
      .error (.dtypeMismatch op.name a.dtype a.dtype)) := by
  have hrepeats : op.RepeatsHandle a.dtype b.dtype → ((op.build a b).run.run s).1 =
      .error (.dtypeMismatch op.name a.dtype a.dtype) := fun hr =>
    congrArg Prod.fst (Operator.run_build_error (Operator.operandType_of_repeatsHandle hr))
  refine ⟨fun err herr => ⟨fun hd hr => ?_, fun hn => ?_⟩, hrepeats⟩
  · have heq : err = .dtypeMismatch op.name a.dtype a.dtype :=
      Except.error.inj (herr.symm.trans (hrepeats hr))
    rw [heq] at hd
    exact hr.dtype_ne hd.2.2.symm
  · have hop := Operator.operandType_of_build_error herr
    exact (Operator.refuses_of_operandType hop).describes (h.nodeTyped ha).valid
      (h.nodeTyped hb).valid hn

/-- A number plus a handle: the error shows both types. The other way round it shows the
handle's only. -/
theorem pointers_refused : Reachable World.pointers ∧ World.pointers.Has World.index ∧
    World.pointers.Has World.buffer ∧
    (∃ err, (((Operator.binary .add).build World.index World.buffer).run.run {}).1 = .error err ∧
      err.Describes "add" (.int 32) .handle) ∧
    (((Operator.binary .add).build World.buffer World.index).run.run {}).1 =
      .error (.dtypeMismatch "add" .handle .handle) := by
  obtain ⟨hdescribes, -⟩ := refusal_describes_iff World.reachable_pointers
    World.pointers_has_index World.pointers_has_buffer (.binary .add) {}
  obtain ⟨-, hrepeats⟩ := refusal_describes_iff World.reachable_pointers
    World.pointers_has_buffer World.pointers_has_index (.binary .add) {}
  exact ⟨World.reachable_pointers, World.pointers_has_index, World.pointers_has_buffer,
    ⟨_, rfl, (hdescribes _ rfl).mpr (by decide)⟩, hrepeats (by decide)⟩

/-- The right operand is a number, and the error shows a handle in its place. -/
theorem handle_shown_twice : Reachable World.pointers ∧ World.pointers.Has World.buffer ∧
    World.pointers.Has World.index ∧ World.index.dtype = .int 32 ∧
    ((Build.binary .add World.buffer World.index).run.run World.pointers.session).1 =
      .error (.dtypeMismatch "add" .handle .handle) :=
  ⟨World.reachable_pointers, World.pointers_has_buffer, World.pointers_has_index, rfl, rfl⟩

end Lanewise
