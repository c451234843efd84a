/-
# A handle beside another type

Two operands of which just one is a handle do not go together. Promotion, which
sees the types only, finds that out for scalars; a vector it lets win over the
handle like over any scalar (`DType.promote_of_one_handle`). A builder sees the
operands and refuses both, with one exception: an integer literal whose type is
a handle is taken for a number and written anew in the type of the other
operand, if that is scalar (`Expr.reconcilable_iff_of_one_handle`). The other way
round nothing happens: no operand becomes a handle (`joined_of_one_handle`).

Key definitions: `Expr.isHandleLiteral`, `Expr.beside`, `Expr.HandleAsNumber`.
Key theorems: `DType.promote_of_one_handle`, `Expr.reconcilable_iff_of_one_handle`,
`handle_beside_other`.
-/
import Lanewise.Proofs.Judgement

namespace Lanewise

/-! ### Promotion -/

theorem DType.not_isFloat_and_isIntegral {s t : DType} (h : s.isHandle ≠ t.isHandle) :
    ¬ (s.isFloat ∧ t.isIntegral) := by
  rintro ⟨hs, ht⟩
  exact h ((isHandle_of_isFloat hs).trans (isHandle_of_isIntegral ht).symm)

/-- A handle and another type are promoted to that type when it is a vector, and
not at all when it is scalar. -/
theorem DType.promote_of_one_handle {s t : DType} (hs : s.Valid) (ht : t.Valid)
    (h : s.isHandle ≠ t.isHandle) (op : String) :
    promote op s t = if s.lanes = t.lanes then .error (.dtypeMismatch op s t)
      else .ok (if s.isHandle then t else s) := by
  unfold promote
  by_cases hl : s.lanes = t.lanes
  · have hne : s ≠ t := fun heq => h (congrArg isHandle heq)
    rw [if_neg (not_not_intro hl), if_pos hl, if_neg hne, if_neg (not_isFloat_and_isIntegral h),
      if_neg (not_isFloat_and_isIntegral h.symm)]
  · rw [if_pos hl, if_neg hl]
    by_cases hh : s.isHandle
    · rw [if_pos (hs.isScalar_of_isHandle hh), if_pos hh]
    · have hth : t.isHandle := by
        rw [Bool.eq_not.mpr h.symm, Bool.eq_false_iff.mpr hh]
        rfl
      have hts : t.isScalar := ht.isScalar_of_isHandle hth
      have hns : s.isScalar = false := isScalar_eq_false hts (Ne.symm hl)
      rw [if_neg (Bool.eq_false_iff.mp hns), if_pos hts, if_neg hh]

/-! ### Operands -/

namespace Expr

/-- An integer literal whose type is a handle. -/
def isHandleLiteral (e : Expr) : Bool := e.isIntLiteral && e.dtype.isHandle

/-- Of two operands, the type of the one that is no handle. -/
def beside (a b : Expr) : DType := if a.dtype.isHandle then b.dtype else a.dtype

/-- One of the operands is a literal whose type is a handle, and the other one is
scalar like it. -/
def HandleAsNumber (a b : Expr) : Prop :=
  a.lanes = b.lanes ∧ (a.isHandleLiteral ∨ b.isHandleLiteral)

variable {a b : Expr}

theorem reconcilable_comm : a.Reconcilable b ↔ b.Reconcilable a := by
  unfold Reconcilable
  grind

/-- A handle on the left and something else on the right. -/
theorem reconcilable_iff_of_isHandle (ha : a.NodeTyped) (hh : a.dtype.isHandle)
    (hn : b.dtype.isHandle = false) : a.Reconcilable b ↔ a.lanes = b.lanes ∧ a.isIntLiteral := by
  have hne : a.dtype.isHandle ≠ b.dtype.isHandle := by rw [hh, hn]; decide
  have hfloat : a.dtype.isFloat = false := Bool.eq_false_iff.mpr fun hf => by
    rw [DType.isHandle_of_isFloat hf] at hh
    exact absurd hh (by decide)
  constructor
  · rintro ⟨hlanes, helement⟩
    have hl : a.lanes = b.lanes := by
      rcases hlanes with hl | ⟨-, ha', -⟩
      · exact hl
      · exact absurd (hh.symm.trans ha') (by decide)
    refine ⟨hl, ?_⟩
    rcases helement hl with heq | (⟨hi, -⟩ | ⟨hf, -⟩) | (⟨-, hno⟩ | ⟨-, hf⟩) | hmix | hmix
    · exact absurd (congrArg DType.isHandle heq) hne
    · exact hi
    · exact absurd ((ha.isFloat_of_isFloatLiteral hf).symm.trans hfloat) (by decide)
    · exact absurd (hh.symm.trans hno) (by decide)
    · exact absurd (hf.symm.trans hfloat) (by decide)
    · exact absurd hmix (DType.not_isFloat_and_isIntegral hne)
    · exact absurd hmix.symm (DType.not_isFloat_and_isIntegral hne.symm)
  · rintro ⟨hl, hi⟩
    exact ⟨.inl hl, fun _ => .inr (.inl (.inl ⟨hi, hn⟩))⟩

/-- Operands of which one is a handle are brought together just when that one is
a literal and the other one scalar. -/
theorem reconcilable_iff_of_one_handle (ha : a.NodeTyped) (hb : b.NodeTyped)
    (h : a.dtype.isHandle ≠ b.dtype.isHandle) : a.Reconcilable b ↔ a.HandleAsNumber b := by
  have hother : b.dtype.isHandle = !a.dtype.isHandle := Bool.eq_not.mpr h.symm
  unfold HandleAsNumber isHandleLiteral
  cases hha : a.dtype.isHandle with
  | true =>
    have hhb : b.dtype.isHandle = false := by rw [hother, hha]; rfl
    rw [reconcilable_iff_of_isHandle ha hha hhb, hhb]
    simp
  | false =>
    have hhb : b.dtype.isHandle = true := by rw [hother, hha]; rfl
    rw [reconcilable_comm, reconcilable_iff_of_isHandle hb hhb hha, hhb, eq_comm]
    simp

/-- What has to become a handle is not written anew. -/
theorem not_adapts_handle {t : DType} (ht : t.isHandle) (e : Expr) : ¬ e.Adapts t := by
  rintro (⟨-, hno⟩ | ⟨-, hf⟩)
  · exact absurd (ht.symm.trans hno) (by decide)
  · exact absurd (ht.symm.trans (DType.isHandle_of_isFloat hf)) (by decide)

/-- The literal takes the other operand's type. -/
theorem joined_of_one_handle (h : a.dtype.isHandle ≠ b.dtype.isHandle)
    (hn : a.HandleAsNumber b) : a.joined b = a.beside b := by
  obtain ⟨hl, hliteral⟩ := hn
  have hne : ¬ a.lanes ≠ b.lanes := fun hlanes => hlanes hl
  have hel : a.dtype.element ≠ b.dtype.element := fun heq =>
    h (congrArg DType.isHandle heq : a.dtype.element.isHandle = b.dtype.element.isHandle)
  have hother : b.dtype.isHandle = !a.dtype.isHandle := Bool.eq_not.mpr h.symm
  unfold beside
  cases hha : a.dtype.isHandle with
  | true =>
    have hhb : b.dtype.isHandle = false := by rw [hother, hha]; rfl
    have hi : a.isIntLiteral := by simpa [isHandleLiteral, hhb, hha] using hliteral
    have hadapts : a.Adapts b.dtype := .inl ⟨hi, hhb⟩
    refine Build.joined_eq_of_element hl hl.symm ?_
    simp only [joinedElement, hel, hne, not_adapts_handle hha b, hadapts, if_true, if_false]
  | false =>
    have hhb : b.dtype.isHandle = true := by rw [hother, hha]; rfl
    have hi : b.isIntLiteral := by simpa [isHandleLiteral, hhb, hha] using hliteral
    have hadapts : b.Adapts a.dtype := .inl ⟨hi, hha⟩
    refine Build.joined_eq_of_element hl rfl ?_
    simp only [joinedElement, hel, hne, hadapts, if_true, if_false, Bool.false_eq_true]

end Expr

/-! ### Builders -/

namespace Operator

variable {op : Operator} {a b r : Expr} {s s' : Session}

/-- The result is a truth value per lane. -/
def isComparison : Operator → Bool
  | binary f => f.isComparison
  | bitwise _ => false

/-- A comparison takes operands of any type. -/
theorem takes_of_isComparison (h : op.isComparison) (d : DType) : op.Takes d := by
  cases op with
  | binary f =>
    have hf : f.isComparison = true := h
    refine ⟨fun hno => absurd (hf.symm.trans hno) (by decide), fun hlogical => ?_⟩
    cases f <;> simp_all [BinaryOp.isComparison, BinaryOp.isLogical]
  | bitwise f => cases h

/-- Any other operator takes no handle. -/
theorem isHandle_of_takes {d : DType} (h : op.Takes d) (hc : op.isComparison = false) :
    d.isHandle = false := by
  cases op with
  | binary f => exact h.1 hc
  | bitwise f => exact DType.isHandle_of_isIntegral h

/-- Operands of which one is a handle: a build that goes through is a comparison
with a literal that is taken for a number. -/
theorem operands_of_yields (ha : a.NodeTyped) (hb : b.NodeTyped)
    (h : a.dtype.isHandle ≠ b.dtype.isHandle) (hr : Build.Yields (op.build a b) s r s') :
    op.isComparison ∧ a.HandleAsNumber b ∧ ∀ x ∈ r.operands, x.dtype = a.beside b := by
  obtain ⟨d, lhs, rhs, i, s₁, s₂, hd, hl, hrhs, -, rfl⟩ := build_yields hr
  obtain ⟨⟨hta, htb⟩, hcommon⟩ := operandType_eq_ok_iff.mp hd
  rw [Build.commonType_eq op.name ha hb] at hcommon
  split at hcommon
  · next hrec =>
    have hn : a.HandleAsNumber b := (Expr.reconcilable_iff_of_one_handle ha hb h).mp hrec
    have hjoined : d = a.beside b :=
      (Except.ok.inj hcommon).symm.trans (Expr.joined_of_one_handle h hn)
    refine ⟨?_, hn, fun x hx => ?_⟩
    · by_contra hc
      have hc' : op.isComparison = false := Bool.eq_false_iff.mpr hc
      exact h ((isHandle_of_takes hta hc').trans (isHandle_of_takes htb hc').symm)
    · rw [operands_node, List.mem_cons, List.mem_singleton] at hx
      rcases hx with rfl | rfl
      · exact (Build.coerce_dtype hl).trans hjoined
      · exact (Build.coerce_dtype hrhs).trans hjoined
  · simp at hcommon

theorem operandType_of_isComparison (ha : a.NodeTyped) (hb : b.NodeTyped) (hc : op.isComparison) :
    op.operandType a b = if a.Reconcilable b then .ok (a.joined b)
      else .error (.dtypeMismatch op.name a.dtype b.dtype) := by
  rw [operandType_of_takes (takes_of_isComparison hc _) (takes_of_isComparison hc _)]
  exact Build.commonType_eq op.name ha hb

end Operator

/-- **A handle beside another type.** Promotion refuses the two when the other
type is scalar, and lets a vector win. A comparison refuses the operands, with a
mismatch of their types, unless one is an integer literal whose type is a handle
and the other one is scalar; these it compares in the other one's type. No other
operator takes them, and no operand is ever made a handle. -/
theorem handle_beside_other {w : World} (hw : Reachable w) {a b : Expr} (ha : w.Has a)
    (hb : w.Has b) (h : a.dtype.isHandle ≠ b.dtype.isHandle) :
    (∀ name, DType.promote name a.dtype b.dtype =
      if a.lanes = b.lanes then .error (.dtypeMismatch name a.dtype b.dtype)
      else .ok (a.beside b)) ∧
    ∀ (op : Operator) (s : Session),
      (op.isComparison → ¬ a.HandleAsNumber b → ((op.build a b).run.run s).1 =
        .error (.dtypeMismatch op.name a.dtype b.dtype)) ∧
      (op.isComparison → a.HandleAsNumber b → ∃ r, ((op.build a b).run.run s).1 = .ok r) ∧
      ∀ r, ((op.build a b).run.run s).1 = .ok r →
        op.isComparison ∧ a.HandleAsNumber b ∧ ∀ x ∈ r.operands, x.dtype = a.beside b := by
  have hta : a.NodeTyped := hw.nodeTyped ha
  have htb : b.NodeTyped := hw.nodeTyped hb
  have hrec := Expr.reconcilable_iff_of_one_handle hta htb h
  refine ⟨fun name => DType.promote_of_one_handle hta.valid htb.valid h name,
    fun op s => ⟨fun hc hn => ?_, fun hc hn => ?_, fun r hr => ?_⟩⟩
  · have herror : op.operandType a b = .error (.dtypeMismatch op.name a.dtype b.dtype) := by
      rw [Operator.operandType_of_isComparison hta htb hc, if_neg (mt hrec.mp hn)]
    rw [Operator.run_build_error herror]
  · have hok : op.operandType a b = .ok (a.joined b) := by
      rw [Operator.operandType_of_isComparison hta htb hc, if_pos (hrec.mpr hn)]
    obtain ⟨r, s', hrun⟩ := Operator.exists_build hok s
    exact ⟨r, congrArg Prod.fst hrun⟩
  · have hrun : Build.Yields (op.build a b) s r ((op.build a b).run.run s).2 := Prod.ext hr rfl
    exact Operator.operands_of_yields hta htb h hrun

namespace World

/-- An index. -/
def index : Expr := .var ⟨0, .int 32⟩ "i"

/-- A handle that is a literal. -/
def null : Expr := .intImm ⟨1, .handle⟩ 0

/-- A handle that is a variable. -/
def buffer : Expr := .var ⟨2, .handle⟩ "p"

/-- A run that makes a number, a handle that is a literal and one that is not. -/
def pointers : World :=
  (({} : World).perform (.var "i")).perform (.constantOf (.untypedInt 0) .handle)
    |>.perform (.varOf "p" .handle)

theorem reachable_pointers : Reachable pointers := by
  have h1 := Reachable.start.perform (.var "i") (List.forall_mem_nil _) (List.forall_mem_nil _)
  have h2 := h1.perform (.constantOf (.untypedInt 0) .handle) (List.forall_mem_nil _)
    (List.forall_mem_singleton.mpr DType.handle_valid)
  exact h2.perform (.varOf "p" .handle) (List.forall_mem_nil _)
    (List.forall_mem_singleton.mpr DType.handle_valid)

theorem pointers_has_index : pointers.Has index := ⟨_, .tail _ (.tail _ (.head _)), .root⟩

theorem pointers_has_null : pointers.Has null := ⟨_, .tail _ (.head _), .root⟩

theorem pointers_has_buffer : pointers.Has buffer := ⟨_, .head _, .root⟩

/-- The comparison for equality. -/
def equal : Operator := .binary .eq

end World

/-- A number and a handle are not compared, a number and a null are. -/
theorem pointers_beside_index : Reachable World.pointers ∧
    World.pointers.Has World.index ∧ World.pointers.Has World.buffer ∧
    World.pointers.Has World.null ∧
    World.index.dtype.isHandle ≠ World.buffer.dtype.isHandle ∧
    World.index.dtype.isHandle ≠ World.null.dtype.isHandle ∧
    DType.promote "eq" (.int 32) .handle = .error (.dtypeMismatch "eq" (.int 32) .handle) ∧
    ((World.equal.build World.index World.buffer).run.run {}).1 =
      .error (.dtypeMismatch "eq" (.int 32) .handle) ∧
    ∃ r, ((World.equal.build World.index World.null).run.run {}).1 = .ok r ∧
      ∀ x ∈ r.operands, x.dtype = .int 32 := by
  obtain ⟨hpromote, hbuffer⟩ := handle_beside_other World.reachable_pointers
    World.pointers_has_index World.pointers_has_buffer (by decide)
  obtain ⟨-, hnull⟩ := handle_beside_other World.reachable_pointers
    World.pointers_has_index World.pointers_has_null (by decide)
  obtain ⟨r, hr⟩ := (hnull World.equal {}).2.1 rfl ⟨rfl, .inr rfl⟩
  have hno : ¬ World.index.HandleAsNumber World.buffer := fun h => absurd h.2 (by decide)
  exact ⟨World.reachable_pointers, World.pointers_has_index, World.pointers_has_buffer,
    World.pointers_has_null, by decide, by decide, hpromote "eq",
    (hbuffer World.equal {}).1 rfl hno, r, hr, ((hnull World.equal {}).2.2 r hr).2.2⟩

/-- A handle yields to a vector in promotion, and a null next to a number becomes
a number. -/
theorem handle_taken_for_number :
    DType.promote "eq" .handle ⟨.int, 32, 4⟩ = .ok ⟨.int, 32, 4⟩ ∧
    Reachable World.pointers ∧ World.pointers.Has World.index ∧ World.pointers.Has World.null ∧
    World.index.dtype = .int 32 ∧ World.null.dtype = .handle ∧
    ((Build.binary .eq World.index World.null).run.run World.pointers.session).1 =
      .ok (.binary ⟨4, .bool 1⟩ .eq World.index (.intImm ⟨3, .int 32⟩ 0)) :=
  ⟨by decide, World.reachable_pointers, World.pointers_has_index, World.pointers_has_null, rfl, rfl,
    rfl⟩

end Lanewise
