/-
# What a conversion makes

Operands are coerced and values cast by two builders that work alike: first the
lane type, by no node, a literal written anew or a cast, and then the lanes, by
no node or a broadcast. `Converted` and `Spread` describe the two steps without
the session, so both builders, from whatever sessions, can be compared.

Key definitions: `Expr.Converted`, `Expr.Spread`.
Key theorems: `Build.coerce_spread`, `Build.exists_cast`, `Build.exists_cast_literal`.
-/
import Lanewise.Build.Cast
import Lanewise.Proofs.Reconcile

namespace Lanewise

namespace Expr

/-- `y` is `e` with lanes of the type `element`. The number to write for `e`, if
there is one, is `number`. -/
inductive Converted (number : Option Scalar) (element : DType) (e : Expr) : Expr → Prop
  | same (h : e.dtype.element = element) : Converted number element e e
  | literal (i : NodeInfo) (v : Scalar) (h : e.dtype.element ≠ element) (hv : number = some v)
      (hi : i.dtype = element) : Converted number element e (ofScalar i v)
  | cast (i : NodeInfo) (h : e.dtype.element ≠ element) (hv : number = none)
      (hi : i.dtype = element.withLanes e.lanes) : Converted number element e (.cast i e)

/-- `x` is `y` over the lanes of `d`. -/
inductive Spread (d : DType) (y : Expr) : Expr → Prop
  | same (h : y.lanes = d.lanes) : Spread d y y
  | broadcast (i : NodeInfo) (h : y.lanes ≠ d.lanes) (hi : i.dtype = d) :
      Spread d y (.broadcast i y)

variable {number : Option Scalar} {element d : DType} {e x y : Expr}

theorem dtype_ofScalar (i : NodeInfo) (v : Scalar) : (ofScalar i v).dtype = i.dtype :=
  congrArg NodeInfo.dtype (info_ofScalar i v)

/-- Numbers are scalar, so a conversion keeps the lanes. -/
theorem Converted.dtype (h : Converted number element e y) (hel : element.isScalar)
    (hn : number.isSome → e.dtype.isScalar) : y.dtype = element.withLanes e.lanes := by
  cases h with
  | same h => exact h ▸ rfl
  | literal i v h hv hi =>
    have hs : e.lanes = 1 := DType.isScalar_iff.mp (hn (by simp [hv]))
    rw [dtype_ofScalar, hi, hs]
    exact (DType.element_eq_self hel).symm
  | cast i h hv hi => exact hi

theorem Spread.dtype (h : Spread d y x) (hy : y.dtype.element = d.element) : x.dtype = d := by
  cases h with
  | same h => exact DType.eq_of_element_eq hy h
  | broadcast i h hi => exact hi

/-- No more lanes, no broadcast. -/
theorem Spread.eq_of_lanes (h : Spread d y x) (hl : y.lanes = d.lanes) : x = y := by
  cases h with
  | same => rfl
  | broadcast i hne => exact absurd hl hne

end Expr

namespace Build

open Lanewise.Expr

variable {d element : DType} {e x y : Expr} {s s' : Session} {v : Scalar}

theorem gives_literal (h : Gives (literal v d) s x s') : x = .ofScalar ⟨s.next, d⟩ v := by
  cases h
  rfl

theorem gives_node {mk : NodeInfo → Expr} (h : Gives (do return mk (← fresh d)) s x s') :
    x = mk ⟨s.next, d⟩ := by
  cases h
  rfl

/-! ### Coercion -/

theorem coerceElement_converted (h : Gives (coerceElement element e) s y s') :
    Converted (e.adapts? element) element e y := by
  unfold coerceElement at h
  by_cases hs : e.dtype.element = element
  · rw [if_pos hs] at h
    rw [(gives_pure.mp h).1]
    exact .same hs
  · rw [if_neg hs] at h
    cases ha : e.adapts? element with
    | some v =>
      rw [ha] at h
      rw [gives_literal h]
      exact .literal _ v hs rfl rfl
    | none =>
      rw [ha] at h
      obtain ⟨_, s₁, -, h⟩ := gives_bind.mp h
      rw [gives_node h]
      exact .cast _ hs rfl rfl

theorem gives_coerceLanes_of_eq {n : UInt16} (hl : e.lanes = n)
    (h : Gives (coerceLanes n e) s y s') : y = e ∧ s' = s := by
  rw [coerceLanes, if_pos hl] at h
  exact gives_pure.mp h

theorem gives_coerceLanes_of_ne {n : UInt16} (hl : e.lanes ≠ n)
    (h : Gives (coerceLanes n e) s y s') :
    y = .broadcast ⟨s.next, e.dtype.withLanes n⟩ e ∧
      s' = ⟨s.next + 1, s.notes ++ [.implicitBroadcast e.dtype n]⟩ := by
  rw [coerceLanes, if_neg hl] at h
  cases h
  exact ⟨rfl, rfl⟩

theorem coerceLanes_spread (h : Gives (coerceLanes d.lanes y) s x s')
    (hy : y.dtype.element = d.element) : Spread d y x := by
  by_cases hl : y.lanes = d.lanes
  · obtain ⟨rfl, -⟩ := gives_coerceLanes_of_eq hl h
    exact .same hl
  · obtain ⟨rfl, -⟩ := gives_coerceLanes_of_ne hl h
    exact .broadcast _ hl (DType.eq_of_element_eq hy rfl)

theorem adapts?_isSome_isScalar (h : (e.adapts? element).isSome) : e.dtype.isScalar := by
  obtain ⟨v, hv⟩ := Option.isSome_iff_exists.mp h
  exact isScalar_of_adapts? hv

/-- What a coerced operand is. -/
theorem coerce_spread (h : Gives (coerce d e) s x s') :
    ∃ y, Converted (e.adapts? d.element) d.element e y ∧ Spread d y x := by
  obtain ⟨y, s₁, h1, h2⟩ := gives_bind.mp h
  have hc := coerceElement_converted h1
  have hy : y.dtype.element = d.element := by
    rw [hc.dtype rfl adapts?_isSome_isScalar]
    rfl
  exact ⟨y, hc, coerceLanes_spread h2 hy⟩

theorem coerce_dtype (h : Gives (coerce d e) s x s') : x.dtype = d := by
  obtain ⟨y, hc, hsp⟩ := coerce_spread h
  refine hsp.dtype ?_
  rw [hc.dtype rfl adapts?_isSome_isScalar]
  rfl

/-! ### Casts -/

theorem castElement_converted (h : Gives (castElement element e) s y s') :
    Converted (e.folds? element) element e y := by
  unfold castElement at h
  by_cases hs : e.dtype.element = element
  · rw [if_pos hs] at h
    rw [(gives_pure.mp h).1]
    exact .same hs
  · rw [if_neg hs] at h
    cases hf : e.folds? element with
    | some v =>
      rw [hf] at h
      obtain ⟨_, s₁, -, h⟩ := gives_bind.mp h
      rw [gives_literal h]
      exact .literal _ v hs rfl rfl
    | none =>
      rw [hf] at h
      rw [gives_node h]
      exact .cast _ hs rfl rfl

/-- What fits a type can be cast to it. -/
theorem not_refused_of_fits (hf : e.Fits d) : ¬ (e.dtype.isVector && e.lanes ≠ d.lanes) = true := by
  rcases hf with hl | hs
  · simp [hl]
  · have h1 : e.dtype.lanes = 1 := DType.isScalar_iff.mp hs
    simp [DType.isVector, h1]

/-- A value that fits a type is cast to it, and what the cast is. -/
theorem exists_cast (hf : e.Fits d) (s : Session) :
    ∃ x s', Yields (cast e d) s x s' ∧
      ∃ y, Converted (e.folds? d.element) d.element e y ∧ Spread d y x := by
  unfold cast
  by_cases hsame : e.dtype = d
  · rw [if_pos hsame]
    exact ⟨e, s, rfl, e, .same (hsame ▸ rfl), .same (hsame ▸ rfl)⟩
  · rw [if_neg hsame, if_neg (not_refused_of_fits hf)]
    obtain ⟨y, s₁, hrun⟩ : ∃ y s₁, Gives (castElement d.element e) s y s₁ := ⟨_, _, rfl⟩
    have hc := castElement_converted hrun
    by_cases hl : y.lanes = d.lanes
    · refine ⟨y, s₁, yields_bind.mpr ⟨y, s₁, yields_lift.mpr hrun, ?_⟩, y, hc, .same hl⟩
      rw [if_pos hl]
      rfl
    · refine ⟨.broadcast ⟨s₁.next, d⟩ y, { s₁ with next := s₁.next + 1 }, ?_, y, hc,
        .broadcast _ hl rfl⟩
      refine yields_bind.mpr ⟨y, s₁, yields_lift.mpr hrun, ?_⟩
      rw [if_neg hl]
      rfl

/-- The literal of a number, cast to another lane type that is no handle, is
written anew. -/
theorem exists_cast_literal (he : e.dtype.isScalar) (hv : e.number? = some v)
    (hd : d.isHandle = false) (hne : e.dtype.element ≠ d.element) (s : Session) :
    ∃ x s' i, Yields (cast e d) s x s' ∧ i.dtype = d.element ∧ Spread d (ofScalar i v) x := by
  obtain ⟨x, s', hrun, y, hc, hsp⟩ := exists_cast (.inr he) s
  have hfold : e.folds? d.element = some v := (if_neg (Bool.eq_false_iff.mp hd)).trans hv
  cases hc with
  | same h => exact absurd h hne
  | literal i u _ hu hi =>
    cases hfold.symm.trans hu
    exact ⟨x, s', i, hrun, hi, hsp⟩
  | cast i _ hu => cases hfold.symm.trans hu

end Build

end Lanewise
