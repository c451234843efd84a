/-
# What the test for NaN makes

The test for NaN is decided where the operand's type or form decides it: an integer is a
number, and a float literal shows whether it is one. Otherwise it is a call, and its
argument is widened to 32 bits first. The cast that does this neither fails, as it keeps
the lanes, nor writes a literal anew, as the literals among the operands are decided
before (`Build.exists_widen`), so it is one node. A test of a test is false everywhere,
since what a test makes is a boolean.

Key definitions: `Expr.Constantly`, `Expr.Widened`, `Expr.NaNTest`.
Key theorems: `Build.exists_isnan`, `Expr.NaNTest.truth?_isSome_iff`, `isnan_exact`.
-/
import Lanewise.Expr.Truth
import Lanewise.Proofs.Conversion
import Lanewise.Proofs.Reachable

namespace Lanewise

namespace Expr

/-- The literal of the truth value `b` in each of `n` lanes. -/
inductive Constantly (b : Bool) : UInt16 → Expr → Prop
  | scalar (i : NodeInfo) (hi : i.dtype = .bool 1) :
      Constantly b 1 (.intImm i (if b then 1 else 0))
  | vector {n : UInt16} (i j : NodeInfo) (hn : n ≠ 1) (hi : i.dtype = .bool n)
      (hj : j.dtype = .bool 1) : Constantly b n (.broadcast i (.intImm j (if b then 1 else 0)))

/-- `y` is the float `x` over at least 32 bits. -/
inductive Widened (x : Expr) : Expr → Prop
  | same (h : 32 ≤ x.dtype.bits) : Widened x x
  | cast (i : NodeInfo) (h : x.dtype.bits < 32) (hi : i.dtype = ⟨.float, 32, x.lanes⟩) :
      Widened x (.cast i x)

/-- What the test for NaN makes of an operand. -/
inductive NaNTest : Expr → Expr → Prop
  | integral {x r : Expr} (h : x.dtype.isIntegral) (hr : Constantly false x.lanes r) : NaNTest x r
  | literal (i j : NodeInfo) (v : Binary64) (hj : j.dtype = .bool 1) :
      NaNTest (.floatImm i v) (.intImm j (if v.isNaN then 1 else 0))
  | call {x y : Expr} (i : NodeInfo) (h : x.dtype.isFloat) (hl : x.isFloatLiteral = false)
      (hy : Widened x y) (hi : i.dtype = .bool x.lanes) : NaNTest x (.call i "isnan" [y])

variable {x y r : Expr} {b : Bool} {n : UInt16}

theorem Constantly.dtype (h : Constantly b n r) : r.dtype = .bool n := by
  cases h with
  | scalar i hi => exact hi
  | vector i j hn hi hj => exact hi

theorem Constantly.eq_intImm (h : Constantly b 1 r) :
    ∃ i, i.dtype = .bool 1 ∧ r = .intImm i (if b then 1 else 0) := by
  cases h with
  | scalar i hi => exact ⟨i, hi, rfl⟩
  | vector i j hn => exact absurd rfl hn

theorem Constantly.not_call {i : NodeInfo} {name : String} {args : List Expr} :
    ¬ Constantly b n (.call i name args) := fun h => nomatch h

/-- A literal has a truth value, its broadcast has none. -/
theorem Constantly.truth?_isSome_iff (h : Constantly b n r) : r.truth?.isSome ↔ n = 1 := by
  cases h with
  | scalar i hi => exact ⟨fun _ => rfl, fun _ => rfl⟩
  | vector i j hn hi hj => exact ⟨fun h => (Bool.false_ne_true h).elim, fun h => absurd h hn⟩

theorem Widened.dtype (h : Widened x y) (hx : x.dtype.isFloat) :
    y.dtype = ⟨.float, max 32 x.dtype.bits, x.lanes⟩ := by
  have hmax : max 32 x.dtype.bits = if 32 ≤ x.dtype.bits then x.dtype.bits else 32 := rfl
  cases h with
  | same h =>
    have hcode : x.dtype.code = .float := DType.isFloat_iff.mp hx
    rw [hmax, if_pos h, ← hcode]
    rfl
  | cast i h hi =>
    rw [hmax, if_neg (UInt16.not_le.mpr h)]
    exact hi

theorem NaNTest.dtype (h : NaNTest x r) (hx : x.NodeTyped) : r.dtype = .bool x.lanes := by
  cases h with
  | integral h hr => exact hr.dtype
  | literal i j v hj =>
    have hl : i.dtype.lanes = 1 := DType.isScalar_iff.mp hx.2.1
    exact hj.trans (congrArg DType.bool hl.symm)
  | call i h hl hy hi => exact hi

theorem NaNTest.argument_dtype {i : NodeInfo} (h : NaNTest x (.call i "isnan" [y])) :
    y.dtype = ⟨.float, max 32 x.dtype.bits, x.lanes⟩ := by
  cases h with
  | integral h hr => exact hr.not_call.elim
  | call i h hl hy hi => exact hy.dtype h

theorem NodeTyped.isFloatLiteral_of_isIntegral (hx : x.NodeTyped) (h : x.dtype.isIntegral) :
    x.isFloatLiteral = false := by
  refine Bool.eq_false_iff.mpr fun hl => ?_
  have hf : x.dtype.isFloat := hx.isFloat_of_isFloatLiteral hl
  exact absurd (hf.symm.trans (DType.isFloat_of_isIntegral h)) (by decide)

/-- The test is decided for integers that are scalar and for float literals. -/
theorem NaNTest.truth?_isSome_iff (h : NaNTest x r) (hx : x.NodeTyped) :
    r.truth?.isSome ↔ x.dtype.isScalar ∧ x.dtype.isIntegral ∨ x.isFloatLiteral := by
  cases h with
  | integral h hr =>
    have hl : x.isFloatLiteral = false := hx.isFloatLiteral_of_isIntegral h
    have hscalar : x.dtype.isScalar ↔ x.lanes = 1 := DType.isScalar_iff
    rw [hr.truth?_isSome_iff, hscalar]
    simp [h, hl]
  | literal i j v hj => exact ⟨fun _ => .inr rfl, fun _ => rfl⟩
  | call i h hl hy hi =>
    have hint : ¬ x.dtype.isIntegral = true := fun hint =>
      absurd (h.symm.trans (DType.isFloat_of_isIntegral hint)) (by decide)
    simp [truth?, hint, hl]

/-- A float that is no float literal is no literal at all. -/
theorem NodeTyped.folds?_eq_none (hx : x.NodeTyped) (hf : x.dtype.isFloat)
    (hl : x.isFloatLiteral = false) (d : DType) : x.folds? d = none := by
  have hnumber : x.number? = none := by
    cases x with
    | intImm => exact absurd (hf.symm.trans hx.2.2.1) (by decide)
    | floatImm => cases hl
    | stringImm | var | unary | binary | bitwise | cast | broadcast | call => rfl
  rw [folds?, hnumber, ite_self]

theorem exists_eq_floatImm {v : Binary64} (h : x.floatValue? = some v) :
    ∃ i, x = .floatImm i v := by
  cases x with
  | floatImm i w => exact ⟨i, congrArg (floatImm i) (Option.some.inj h)⟩
  | _ => cases h

theorem isFloatLiteral_of_floatValue? (h : x.floatValue? = none) : x.isFloatLiteral = false := by
  cases x with
  | floatImm => cases h
  | _ => rfl

end Expr

namespace Build

open Lanewise.Expr

variable {x r : Expr} {s s' : Session}

theorem gives_literal_bool (b : Bool) (s : Session) :
    Gives (literal (.bool b) (.bool 1)) s (.intImm ⟨s.next, .bool 1⟩ (if b then 1 else 0))
      { s with next := s.next + 1 } := by
  cases b <;> rfl

theorem exists_constantOf_bool (b : Bool) (n : UInt16) (s : Session) :
    ∃ r s', Gives (constantOf (.bool b) (.bool n)) s r s' ∧ Constantly b n r := by
  have hy := gives_literal_bool b s
  by_cases hn : n = 1
  · rw [hn]
    exact ⟨_, _, gives_bind.mpr ⟨_, _, hy, rfl⟩, .scalar _ rfl⟩
  · have hscalar : ¬ (DType.bool n).isScalar = true := fun h => hn (DType.isScalar_iff.mp h)
    have hr : Gives (constantOf (.bool b) (.bool n)) s
        (.broadcast ⟨s.next + 1, .bool n⟩ (.intImm ⟨s.next, .bool 1⟩ (if b then 1 else 0)))
        { s with next := s.next + 2 } := by
      refine gives_bind.mpr ⟨_, _, hy, ?_⟩
      rw [if_neg hscalar]
      rfl
    exact ⟨_, _, hr, .vector _ _ hn rfl rfl⟩

/-- A float that is no literal is widened by a cast of one node. -/
theorem exists_widen (hx : x.NodeTyped) (hf : x.dtype.isFloat) (hl : x.isFloatLiteral = false)
    (hb : x.dtype.bits < 32) (s : Session) :
    ∃ y s', Yields (cast x ((DType.float 32).withLanes x.lanes)) s y s' ∧ x.Widened y := by
  have hfits : x.Fits ((DType.float 32).withLanes x.lanes) := .inl rfl
  obtain ⟨z, s', hrun, y, hc, hsp⟩ := exists_cast hfits s
  refine ⟨z, s', hrun, ?_⟩
  cases hc with
  | same h =>
    have hbits : x.dtype.bits = 32 := congrArg DType.bits h
    rw [hbits] at hb
    exact absurd hb (by decide)
  | literal i v h hv => cases (hx.folds?_eq_none hf hl _).symm.trans hv
  | cast i h hv hi =>
    rw [hsp.eq_of_lanes (congrArg DType.lanes hi)]
    exact .cast i hb hi

theorem exists_isnan_of_isIntegral (h : x.dtype.isIntegral) (s : Session) :
    ∃ r s', Yields (isnan x) s r s' ∧ Constantly false x.lanes r := by
  obtain ⟨r, s', hr, hfalse⟩ := exists_constantOf_bool false x.lanes
    { s with notes := s.notes ++ [.integerNaN x.dtype] }
  refine ⟨r, s', ?_, hfalse⟩
  simp only [isnan]
  cases hcode : x.dtype.code with
  | int | uint => exact yields_bind.mpr ⟨(), _, rfl, yields_lift.mpr hr⟩
  | float | handle => simp [DType.isIntegral, DType.isInt, DType.isUInt, hcode] at h

theorem exists_isnan_of_isFloat (hx : x.NodeTyped) (hf : x.dtype.isFloat) (s : Session) :
    ∃ r s', Yields (isnan x) s r s' ∧ x.NaNTest r := by
  have hcode : x.dtype.code = .float := DType.isFloat_iff.mp hf
  simp only [isnan, hcode]
  cases hv : x.floatValue? with
  | some v =>
    obtain ⟨i, rfl⟩ := exists_eq_floatImm hv
    obtain ⟨r, s', hr, hconst⟩ := exists_constantOf_bool v.isNaN i.dtype.lanes
      { s with notes := s.notes ++ [.literalNaN v] }
    -- a literal is scalar, so the answer is not repeated
    rw [DType.isScalar_iff.mp hx.2.1] at hconst
    obtain ⟨j, hj, rfl⟩ := hconst.eq_intImm
    exact ⟨_, s', yields_bind.mpr ⟨(), _, rfl, yields_lift.mpr hr⟩, .literal i j v hj⟩
  | none =>
    have hl : x.isFloatLiteral = false := isFloatLiteral_of_floatValue? hv
    by_cases hb : x.dtype.bits < 32
    · obtain ⟨y, s₁, hy, hw⟩ := exists_widen hx hf hl hb s
      simp only [if_pos hb]
      exact ⟨_, _, yields_bind.mpr ⟨y, s₁, hy, rfl⟩, .call ⟨s₁.next, .bool x.lanes⟩ hf hl hw rfl⟩
    · have hw : x.Widened x := .same (UInt16.not_lt.mp hb)
      simp only [if_neg hb]
      exact ⟨_, _, rfl, .call ⟨s.next, .bool x.lanes⟩ hf hl hw rfl⟩

/-- On anything but a handle the test is made, in one of its shapes. -/
theorem exists_isnan (hx : x.NodeTyped) (hh : x.dtype.isHandle = false) (s : Session) :
    ∃ r s', Yields (isnan x) s r s' ∧ x.NaNTest r := by
  by_cases hf : x.dtype.isFloat
  · exact exists_isnan_of_isFloat hx hf s
  · have hint : x.dtype.isIntegral := DType.isIntegral_of_not_isFloat hf hh
    obtain ⟨r, s', hr, hfalse⟩ := exists_isnan_of_isIntegral hint s
    exact ⟨r, s', hr, .integral hint hfalse⟩

theorem run_isnan_of_isHandle (hh : x.dtype.isHandle) (s : Session) :
    (isnan x).run.run s = (.error (.intrinsicOperand "isnan" x.dtype), s) := by
  have hcode : x.dtype.code = .handle := DType.isHandle_iff.mp hh
  simp only [isnan, hcode]
  rfl

end Build

open Build Lanewise.Expr

/-- **The test for NaN, end to end.** Handles are refused. Any other value of a run is
tested, and the test is a boolean over its lanes: false for integers, decided for float
literals, and else one call on the value over at least 32 bits. The test has a truth value
just when the value is a scalar integer or a float literal, and a test of the test is
false everywhere. -/
theorem isnan_exact {w : World} (h : Reachable w) {x : Expr} (hx : w.Has x) :
    (x.dtype.isHandle → ∀ s,
      (isnan x).run.run s = (.error (.intrinsicOperand "isnan" x.dtype), s)) ∧
    (x.dtype.isHandle = false → ∀ s, ∃ r s', Yields (isnan x) s r s' ∧
      r.dtype = .bool x.lanes ∧ x.NaNTest r ∧
      (∀ i y, r = .call i "isnan" [y] → y.dtype = ⟨.float, max 32 x.dtype.bits, x.lanes⟩) ∧
      (r.truth?.isSome ↔ x.dtype.isScalar ∧ x.dtype.isIntegral ∨ x.isFloatLiteral) ∧
      ∀ t, ∃ r' t', Yields (isnan r) t r' t' ∧ Constantly false x.lanes r') := by
  have ht : x.NodeTyped := h.nodeTyped hx
  refine ⟨run_isnan_of_isHandle, fun hh s => ?_⟩
  obtain ⟨r, s', hr, htest⟩ := exists_isnan ht hh s
  have hd : r.dtype = .bool x.lanes := htest.dtype ht
  have hlanes : r.lanes = x.lanes := by
    rw [lanes, hd]
    rfl
  have hint : r.dtype.isIntegral := by
    rw [hd]
    rfl
  refine ⟨r, s', hr, hd, htest, ?_, htest.truth?_isSome_iff ht, fun t => ?_⟩
  · rintro i y rfl
    exact htest.argument_dtype
  · obtain ⟨r', t', hr', hfalse⟩ := exists_isnan_of_isIntegral hint t
    rw [hlanes] at hfalse
    exact ⟨r', t', hr', hfalse⟩

namespace World

/-- A short float over four lanes. -/
def sample : Expr := .var ⟨0, ⟨.float, 16, 4⟩⟩ "x"

/-- A string, which no test for NaN takes. -/
def label : Expr := .stringImm ⟨1, .handle⟩ "weights"

/-- A run that makes a short float over four lanes and a handle. -/
def samples : World :=
  (({} : World).perform (.varOf "x" ⟨.float, 16, 4⟩)).perform (.stringImm "weights")

theorem reachable_samples : Reachable samples := by
  have hvalid : (⟨.float, 16, 4⟩ : DType).Valid := by decide
  have h := Reachable.start.perform (.varOf "x" ⟨.float, 16, 4⟩) (List.forall_mem_nil _)
    (List.forall_mem_singleton.mpr hvalid)
  exact h.perform (.stringImm "weights") (List.forall_mem_nil _) (List.forall_mem_nil _)

theorem samples_has_sample : samples.Has sample := ⟨_, .tail _ (.head _), .root⟩

theorem samples_has_label : samples.Has label := ⟨_, .head _, .root⟩

end World

/-- A handle is refused, and short floats are tested by a call on floats of 32 bits. -/
theorem samples_isnan : Reachable World.samples ∧ World.samples.Has World.sample ∧
    World.samples.Has World.label ∧
    (isnan World.label).run.run {} = (.error (.intrinsicOperand "isnan" .handle), {}) ∧
    ∃ r s', Yields (isnan World.sample) {} r s' ∧ r.dtype = .bool 4 ∧ r.truth?.isSome = false ∧
      (∃ i j, r = .call i "isnan" [.cast j World.sample] ∧ j.dtype = ⟨.float, 32, 4⟩) ∧
      ∃ r' t', Yields (isnan r) s' r' t' ∧ Constantly false 4 r' := by
  obtain ⟨hrefused, -⟩ := isnan_exact World.reachable_samples World.samples_has_label
  obtain ⟨-, htested⟩ := isnan_exact World.reachable_samples World.samples_has_sample
  obtain ⟨r, s', hr, hd, htest, -, htruth, htwice⟩ := htested rfl {}
  have hno : ¬ r.truth?.isSome = true := fun h => absurd (htruth.mp h) (by decide)
  refine ⟨World.reachable_samples, World.samples_has_sample, World.samples_has_label,
    hrefused rfl {}, r, s', hr, hd, Bool.eq_false_iff.mpr hno, ?_, htwice s'⟩
  cases htest with
  | integral h => exact absurd h (by decide)
  | call i h hl hy =>
    cases hy with
    | same h32 => exact absurd h32 (by decide)
    | cast j h32 hj => exact ⟨i, j, rfl, hj⟩

end Lanewise
