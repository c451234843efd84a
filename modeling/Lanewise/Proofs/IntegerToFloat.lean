/-
# Integers that become floats

An integer becomes a float literal in three places: as a constant of a float
type, in a cast, and as an operand next to a float. Each of them reads the word
of the integer with a sign. So the literal carries the double nearest to the
number, in order and with the right sign, exactly when the number is below
`2 ^ 63`; from there on, what is rounded is the number less `2 ^ 64`.

Key definitions: `World.Floats`, `Expr.Carries`.
Key theorems: `World.Floats.eq_ofInt`, `World.Floats.carries_iff`, `conversion_carries_iff`.
-/
import Lanewise.Proofs.ImplicitCast
import Lanewise.Proofs.Integers
import Lanewise.Proofs.Nearest

namespace Lanewise

open Build

/-- `e` is the float literal of the type `f` that is made of the integer `n`: of a
scalar, or of a literal of the run by a cast or beside an operand of that type. -/
inductive World.Floats (w : World) (f : DType) : Int → Expr → Prop
  | constantOf {v : Scalar} {n : Int} {e : Expr} {s s' : Session} (hv : v.integer? = some n)
      (h : Gives (constantOf v f) s e s') : Floats w f n e
  | cast {i : NodeInfo} {v : Int64} {e : Expr} {s s' : Session} (hx : w.Has (.intImm i v))
      (h : Yields (cast (.intImm i v) f) s e s') : Floats w f (i.dtype.denote v) e
  | left {op : Operator} {i j : NodeInfo} {v : Int64} {y lhs rhs : Expr} {s s' : Session}
      (hx : w.Has (.intImm i v)) (hy : w.Has y) (hf : y.dtype = f)
      (h : Yields (op.build (.intImm i v) y) s (op.node j lhs rhs) s') :
      Floats w f (i.dtype.denote v) lhs
  | right {op : Operator} {i j : NodeInfo} {v : Int64} {y lhs rhs : Expr} {s s' : Session}
      (hx : w.Has (.intImm i v)) (hy : w.Has y) (hf : y.dtype = f)
      (h : Yields (op.build y (.intImm i v)) s (op.node j lhs rhs) s') :
      Floats w f (i.dtype.denote v) rhs

namespace Expr

/-- A float literal of the type `f` with the double nearest to `n`, which is
negative for negative numbers only. -/
def Carries (e : Expr) (f : DType) (n : Int) : Prop :=
  ∃ i x, e = .floatImm i x ∧ i.dtype = f ∧ x.Nearest n ∧ (0 ≤ n → x.isNegative = false)

/-- The number that a float literal shows. -/
def value? (e : Expr) : Option ℚ := e.floatValue?.bind Binary64.value?

variable {i : NodeInfo} {v : Int64} {e x y : Expr} {f : DType} {n : Int}

theorem carries_ofInt (hi : i.dtype = f) (h : n.natAbs < 2 ^ 64) :
    (floatImm i (.ofInt n)).Carries f n := by
  refine ⟨i, _, rfl, hi, Binary64.nearest_ofInt h, fun hn => ?_⟩
  rw [Binary64.isNegative_ofInt h]
  exact decide_eq_false (by omega)

/-- A negative double is not that of a natural number. -/
theorem not_carries_of_isNegative {x : Binary64} (hx : x.isNegative) (hn : 0 ≤ n) :
    ¬ (floatImm i x).Carries f n := by
  rintro ⟨j, y, hy, -, -, hsign⟩
  cases hy
  exact Bool.false_ne_true ((hsign hn).symm.trans hx)

/-! ### One integer literal -/

/-- An integer literal that is converted to a scalar float type. -/
theorem Converted.eq_floatImm (hx : (intImm i v).NodeTyped) (hf : f.isFloat) (hs : f.isScalar)
    (hc : Converted (some (.int64 v)) f.element (intImm i v) y) (hsp : Spread f y e) :
    ∃ j, e = .floatImm j (.ofInt v.toInt) ∧ j.dtype = f := by
  have hnot : (intImm i v).dtype.isFloat = false := hx.2.2.1
  cases hc with
  | same h => exact absurd (hnot.symm.trans ((DType.isFloat_eq h).trans hf)) Bool.false_ne_true
  | literal j u hne hu hj =>
    cases hu
    have hjf : j.dtype = f := hj.trans (DType.element_eq_self hs)
    have hlit : ofScalar j (.int64 v) = .floatImm j (.ofInt v.toInt) := if_pos (hjf ▸ hf)
    rw [hlit] at hsp
    exact ⟨j, hsp.eq_of_lanes (congrArg DType.lanes hjf), hjf⟩
  | cast j hne hu => cases hu

theorem folds?_intImm (hf : f.isFloat) : (intImm i v).folds? f.element = some (.int64 v) := by
  have hh : f.element.isHandle = false := DType.isHandle_of_isFloat hf
  simp [folds?, hh, number?]

theorem adapts?_intImm (hx : (intImm i v).NodeTyped) (hf : f.isFloat) :
    (intImm i v).adapts? f.element = some (.int64 v) := by
  have hs : (intImm i v).dtype.isScalar := hx.2.1
  rw [adapts?, if_pos hs, folds?_intImm hf]
  rfl

end Expr

namespace Operator

open Lanewise.Expr

variable {op : Operator} {i : NodeInfo} {v : Int64} {e x y : Expr} {f d : DType} {s s' : Session}

/-- Beside a scalar float, the type of both operands is the float's. -/
theorem commonType_intImm_float (name : String) (hx : (intImm i v).NodeTyped) (hy : y.NodeTyped)
    (hf : y.dtype.isFloat) (hs : y.dtype.isScalar) :
    commonType name (intImm i v) y = .ok y.dtype ∧
      commonType name y (intImm i v) = .ok y.dtype := by
  have hl : (intImm i v).dtype.lanes = y.dtype.lanes :=
    (DType.isScalar_iff.mp hx.2.1).trans (DType.isScalar_iff.mp hs).symm
  have hxy : (intImm i v).adapts? y.dtype.element = some (.int64 v) := adapts?_intImm hx hf
  have hyx : (y.adapts? (intImm i v).dtype.element).isSome = false := by
    rw [Bool.eq_false_iff, ne_eq, adapts?_isSome_iff hy]
    rintro (⟨hlit, -⟩ | ⟨-, hfl⟩)
    · exact absurd ((hy.isFloat_of_isIntLiteral hlit).symm.trans hf) Bool.false_ne_true
    · exact absurd (hx.2.2.1.symm.trans hfl) Bool.false_ne_true
  constructor
  · rw [commonType]
    simp [hl, hxy, hyx]
  · rw [commonType]
    simp [hl, hxy]

theorem coerce_intImm (hx : (intImm i v).NodeTyped) (hf : f.isFloat) (hs : f.isScalar)
    (h : Gives (coerce f (intImm i v)) s e s') :
    ∃ j, e = .floatImm j (.ofInt v.toInt) ∧ j.dtype = f := by
  obtain ⟨y, hc, hsp⟩ := coerce_spread h
  rw [adapts?_intImm hx hf] at hc
  exact hc.eq_floatImm hx hf hs hsp

theorem node_inj {j k : NodeInfo} {a b a' b' : Expr} (h : op.node j a b = op.node k a' b') :
    a = a' ∧ b = b' := by
  cases op <;> cases h <;> exact ⟨rfl, rfl⟩

/-- The children are the operands, coerced to their common type. -/
theorem gives_children {j : NodeInfo} {a b lhs rhs : Expr}
    (h : Yields (op.build a b) s (op.node j lhs rhs) s') (hd : commonType op.name a b = .ok d) :
    (∃ t t', Gives (coerce d a) t lhs t') ∧ ∃ t t', Gives (coerce d b) t rhs t' := by
  obtain ⟨d', lhs', rhs', k, s₁, s₂, hd', hl, hr, -, hnode⟩ := build_yields h
  obtain ⟨rfl, rfl⟩ := node_inj hnode
  obtain rfl : d = d' := Except.ok.inj (hd.symm.trans (operandType_eq_ok_iff.mp hd').2)
  exact ⟨⟨_, _, hl⟩, _, _, hr⟩

/-- Beside a scalar float an integer literal is written anew, and the float is left. -/
theorem children_left {j : NodeInfo} {lhs rhs : Expr} (hx : (intImm i v).NodeTyped)
    (hy : y.NodeTyped) (hf : y.dtype.isFloat) (hs : y.dtype.isScalar)
    (h : Yields (op.build (intImm i v) y) s (op.node j lhs rhs) s') :
    (∃ k, lhs = .floatImm k (.ofInt v.toInt) ∧ k.dtype = y.dtype) ∧ rhs = y := by
  obtain ⟨⟨_, _, hl⟩, _, _, hr⟩ := gives_children h (commonType_intImm_float _ hx hy hf hs).1
  exact ⟨coerce_intImm hx hf hs hl, eq_of_coerce rfl hr⟩

@[inherit_doc children_left]
theorem children_right {j : NodeInfo} {lhs rhs : Expr} (hx : (intImm i v).NodeTyped)
    (hy : y.NodeTyped) (hf : y.dtype.isFloat) (hs : y.dtype.isScalar)
    (h : Yields (op.build y (intImm i v)) s (op.node j lhs rhs) s') :
    lhs = y ∧ ∃ k, rhs = .floatImm k (.ofInt v.toInt) ∧ k.dtype = y.dtype := by
  obtain ⟨⟨_, _, hl⟩, _, _, hr⟩ := gives_children h (commonType_intImm_float _ hx hy hf hs).2
  exact ⟨eq_of_coerce rfl hl, coerce_intImm hx hf hs hr⟩

theorem takes_of_not_isHandle {f : BinaryOp} (hf : f.isLogical = false) (hd : d.isHandle = false) :
    (binary f).Takes d :=
  ⟨fun _ => hd, fun h => absurd (hf.symm.trans h) Bool.false_ne_true⟩

/-- An operator that takes numbers makes a node of an integer literal and a scalar
float, with the float as a child. -/
theorem exists_binary {g : BinaryOp} (hg : g.isLogical = false) (hi : i.dtype.isIntegral)
    (hx : (intImm i v).NodeTyped) (hy : y.NodeTyped) (hf : y.dtype.isFloat)
    (hs : y.dtype.isScalar) (s : Session) :
    (∃ j lhs s', Yields (Build.binary g (.intImm i v) y) s (.binary j g lhs y) s') ∧
      ∃ j rhs s', Yields (Build.binary g y (.intImm i v)) s (.binary j g y rhs) s' := by
  have htx : (binary g).Takes (intImm i v).dtype :=
    takes_of_not_isHandle hg (DType.isHandle_of_isIntegral hi)
  have hty : (binary g).Takes y.dtype := takes_of_not_isHandle hg (DType.isHandle_of_isFloat hf)
  obtain ⟨hl, hr⟩ := commonType_intImm_float (binary g).name hx hy hf hs
  constructor
  · obtain ⟨r, s', hrun⟩ := exists_build ((operandType_of_takes htx hty).trans hl) s
    obtain ⟨_, lhs, rhs, j, -, -, -, -, -, -, rfl⟩ := build_yields hrun
    obtain ⟨-, rfl⟩ := children_left hx hy hf hs hrun
    exact ⟨j, lhs, s', hrun⟩
  · obtain ⟨r, s', hrun⟩ := exists_build ((operandType_of_takes hty htx).trans hr) s
    obtain ⟨_, lhs, rhs, j, -, -, -, -, -, -, rfl⟩ := build_yields hrun
    obtain ⟨rfl, -⟩ := children_right hx hy hf hs hrun
    exact ⟨j, rhs, s', hrun⟩

end Operator

/-! ### Every literal that is made -/

namespace World

variable {w : World} {f : DType} {m n : Int} {d e : Expr} {p q : ℚ}

theorem gives_constantOf {v : Scalar} {s s' : Session} (hf : f.isFloat) (hs : f.isScalar)
    (h : Gives (constantOf v f) s e s') : ∃ j, e = .floatImm j v.toBinary64 ∧ j.dtype = f := by
  obtain ⟨x, s₁, hx, h⟩ := gives_bind.mp h
  rw [if_pos hs] at h
  rw [(gives_pure.mp h).1, gives_literal hx, DType.element_eq_self hs]
  exact ⟨⟨s.next, f⟩, if_pos hf, rfl⟩

/-- Whatever way was taken, the literal shows the double of the signed word. -/
theorem Floats.eq_ofInt (h : w.Floats f n e) (hw : Reachable w) (hf : f.isFloat)
    (hs : f.isScalar) : (-2 ^ 63 ≤ n ∧ n < 2 ^ 64) ∧
      ∃ j, e = .floatImm j (.ofInt (n.bmod (2 ^ 64))) ∧ j.dtype = f := by
  cases h with
  | @constantOf v n e s s' hv h =>
    refine ⟨Scalar.bounds_of_integer? hv, ?_⟩
    rw [← Scalar.toBinary64_eq hv]
    exact gives_constantOf hf hs h
  | @cast i v e s s' hx h =>
    refine ⟨DType.denote_bounds _ _, ?_⟩
    rw [DType.bmod_denote]
    have hxt : (Expr.intImm i v).NodeTyped := hw.nodeTyped hx
    have hfits : (Expr.intImm i v).Fits f := .inr hxt.2.1
    obtain ⟨e', s₁, hrun, y, hc, hsp⟩ := exists_cast hfits s
    cases h.symm.trans hrun
    rw [Expr.folds?_intImm hf] at hc
    exact hc.eq_floatImm hxt hf hs hsp
  | @left op i j v y lhs rhs s s' hx hy hyf h =>
    refine ⟨DType.denote_bounds _ _, ?_⟩
    rw [DType.bmod_denote]
    subst hyf
    exact (Operator.children_left (hw.nodeTyped hx) (hw.nodeTyped hy) hf hs h).1
  | @right op i j v y lhs rhs s s' hx hy hyf h =>
    refine ⟨DType.denote_bounds _ _, ?_⟩
    rw [DType.bmod_denote]
    subst hyf
    exact (Operator.children_right (hw.nodeTyped hx) (hw.nodeTyped hy) hf hs h).2

/-- The number is kept below `2 ^ 63`, and only there. -/
theorem Floats.carries_iff (h : w.Floats f n e) (hw : Reachable w) (hf : f.isFloat)
    (hs : f.isScalar) : e.Carries f n ↔ n < 2 ^ 63 := by
  obtain ⟨⟨hlow, hhigh⟩, j, rfl, hj⟩ := h.eq_ofInt hw hf hs
  constructor
  · intro hc
    by_contra hlt
    rw [bmod_of_ge (not_lt.mp hlt) hhigh] at hc
    have hneg : (Binary64.ofInt (n - 2 ^ 64)).isNegative = true := by
      rw [Binary64.isNegative_ofInt (by omega)]
      exact decide_eq_true (by omega)
    exact Expr.not_carries_of_isNegative hneg (by omega) hc
  · intro hlt
    rw [bmod_of_lt hlow hlt]
    exact Expr.carries_ofInt hj (by omega)

theorem Floats.carries_sub (h : w.Floats f n e) (hw : Reachable w) (hf : f.isFloat)
    (hs : f.isScalar) (hn : 2 ^ 63 ≤ n) : e.Carries f (n - 2 ^ 64) := by
  obtain ⟨⟨hlow, hhigh⟩, j, rfl, hj⟩ := h.eq_ofInt hw hf hs
  rw [bmod_of_ge hn hhigh]
  exact Expr.carries_ofInt hj (by omega)

/-- The conversions keep the order. -/
theorem Floats.value?_le (hd : w.Floats f m d) (he : w.Floats f n e) (hw : Reachable w)
    (hf : f.isFloat) (hs : f.isScalar) (hmn : m ≤ n) (hn : n < 2 ^ 63)
    (hp : d.value? = some p) (hq : e.value? = some q) : p ≤ q := by
  obtain ⟨⟨hm', -⟩, i, rfl, -⟩ := hd.eq_ofInt hw hf hs
  obtain ⟨⟨hn', -⟩, j, rfl, -⟩ := he.eq_ofInt hw hf hs
  rw [bmod_of_lt hm' (by omega)] at hp
  rw [bmod_of_lt hn' hn] at hq
  exact Binary64.value?_ofInt_le hmn (by omega) (by omega) hp hq

end World

/-- **Integers below `2 ^ 63` keep their value as floats.** Literals denote the
integers they are made of; a cast of a literal to a scalar float type succeeds,
and so does an operator on numbers that is given one and a float. What any of
these conversions makes of the integer `n` carries the nearest double exactly
when `n` is below `2 ^ 63`, and there in the order of the integers; from there on
it carries that of `n - 2 ^ 64`. -/
theorem conversion_carries_iff {w : World} (h : Reachable w) {f : DType} (hf : f.isFloat)
    (hs : f.isScalar) :
    (∀ (v : Scalar) n, v.integer? = some n → v.dtype.Holds n → ∀ s, ∃ i u s',
      Gives (constant v) s (.intImm i u) s' ∧ i.dtype = v.dtype ∧ i.dtype.denote u = n) ∧
    (∀ i v, w.Has (.intImm i v) → ∀ s, (∃ e s', Yields (cast (.intImm i v) f) s e s') ∧
      ∀ y, w.Has y → y.dtype = f → i.dtype.isIntegral → ∀ op : BinaryOp, op.isLogical = false →
        (∃ j lhs s', Yields (binary op (.intImm i v) y) s (.binary j op lhs y) s') ∧
        ∃ j rhs s', Yields (binary op y (.intImm i v)) s (.binary j op y rhs) s') ∧
    (∀ n e, w.Floats f n e → (e.Carries f n ↔ n < 2 ^ 63) ∧
      (2 ^ 63 ≤ n → e.Carries f (n - 2 ^ 64))) ∧
    ∀ m n d e p q, w.Floats f m d → w.Floats f n e → m ≤ n → n < 2 ^ 63 →
      d.value? = some p → e.value? = some q → p ≤ q := by
  refine ⟨fun v n hv hn s => constant_denotes hv hn s, fun i v hx s => ⟨?_, ?_⟩,
    fun n e he => ⟨he.carries_iff h hf hs, he.carries_sub h hf hs⟩,
    fun m n d e p q hd he hmn hn => hd.value?_le he h hf hs hmn hn⟩
  · have hfits : (Expr.intImm i v).Fits f := .inr (h.nodeTyped hx).2.1
    obtain ⟨e, s', hrun, -⟩ := exists_cast hfits s
    exact ⟨e, s', hrun⟩
  · rintro y hy rfl hi op hop
    exact Operator.exists_binary hop hi (h.nodeTyped hx) (h.nodeTyped hy) hf hs s

namespace World

/-- The number `2 ^ 63`, as an unsigned integer. -/
def half : Expr := .intImm ⟨0, .uint 64⟩ Int64.minValue

/-- A variable of a float type. -/
def weight : Expr := .var ⟨1, .float 64⟩ "weight"

/-- The integer `2 ^ 63` and a variable. -/
def halves : World :=
  (({} : World).perform (.constant (.uint64 0x8000000000000000))).perform
    (.varOf "weight" (.float 64))

theorem reachable_halves : Reachable halves :=
  (Reachable.start.perform (.constant (.uint64 0x8000000000000000)) (List.forall_mem_nil _)
    (List.forall_mem_nil _)).perform (.varOf "weight" (.float 64)) (List.forall_mem_nil _)
    (List.forall_mem_singleton.mpr (by decide))

theorem halves_has_half : halves.Has half := ⟨_, .tail _ (.head _), .root⟩

theorem halves_has_weight : halves.Has weight := ⟨_, .head _, .root⟩

end World

/-- The integer and the variable in that run. -/
theorem halves_carries_iff : Reachable World.halves ∧ (DType.float 64).isFloat ∧
    (DType.float 64).isScalar ∧ (∃ e s', Yields (cast World.half (.float 64)) {} e s') ∧
    (∃ j lhs s', Yields (binary .add World.half World.weight) {}
      (.binary j .add lhs World.weight) s') ∧
    ∀ n e, World.halves.Floats (.float 64) n e → (e.Carries (.float 64) n ↔ n < 2 ^ 63) := by
  obtain ⟨-, hmade, hiff, -⟩ := conversion_carries_iff World.reachable_halves
    (f := .float 64) (by decide) (by decide)
  obtain ⟨hcast, hbinary⟩ := hmade _ _ World.halves_has_half {}
  exact ⟨World.reachable_halves, by decide, by decide, hcast,
    (hbinary _ World.halves_has_weight rfl (by decide) .add rfl).1, fun n e he => (hiff n e he).1⟩

/-- In none of the three places does `2 ^ 63` keep its value. -/
theorem half_not_carried : World.halves.Has World.half ∧ World.halves.Has World.weight ∧
    (DType.uint 64).denote Int64.minValue = 2 ^ 63 ∧
    (∃ e s', Gives (constantOf (.uint64 0x8000000000000000) (.float 64)) {} e s' ∧
      ¬ e.Carries (.float 64) (2 ^ 63)) ∧
    (∃ e s', Yields (cast World.half (.float 64)) {} e s' ∧ ¬ e.Carries (.float 64) (2 ^ 63)) ∧
    ∃ j e s', Yields (binary .add World.half World.weight) {} (.binary j .add e World.weight) s' ∧
      ¬ e.Carries (.float 64) (2 ^ 63) := by
  have hneg (i : NodeInfo) :
      ¬ (Expr.floatImm i (.ofInt (-2 ^ 63))).Carries (.float 64) (2 ^ 63) :=
    Expr.not_carries_of_isNegative (by decide) (by decide)
  exact ⟨World.halves_has_half, World.halves_has_weight, by decide, ⟨_, _, rfl, hneg _⟩,
    ⟨_, _, rfl, hneg _⟩, ⟨_, _, _, rfl, hneg _⟩⟩

end Lanewise
