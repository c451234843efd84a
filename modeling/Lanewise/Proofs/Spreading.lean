/-
# Casts and broadcasts

A cast goes through when the value is scalar or has the lanes that are asked for,
and ends with the type that is asked for. It is the value itself when that has the type
already, and a new node otherwise (`Build.cast_new`), so casting twice is casting
once. Over several lanes three builders make the same node by ways of their own:
a cast of a scalar is the broadcast of its cast to the lane type
(`Build.exists_cast_broadcast`), a literal is the broadcast of the literal of the
lane type, and a broadcast is a cast that keeps the lane type.

Key definitions: `Scalar.isNaN`, `Build.GiveEqual`.
Key theorems: `Build.cast_dtype`, `Build.cast_new`, `Build.exists_cast_broadcast`, `cast_exact`.
-/
import Lanewise.Proofs.Congruence

namespace Lanewise

/-! ### Outcomes of a cast -/

namespace Build

open Lanewise.Expr

variable {x y r : Expr} {d element : DType} {s s' : Session} {n : UInt16}

theorem fits_of_cast (hx : x.dtype.Valid) (h : Yields (cast x d) s r s') : x.Fits d := by
  by_contra hf
  cases (run_cast_error hx hf s).symm.trans h

theorem cast_dtype (hx : x.NodeTyped) (h : Yields (cast x d) s r s') : r.dtype = d := by
  obtain ⟨r', t, hr', y, hc, hsp⟩ := exists_cast (fits_of_cast hx.valid h) s
  obtain ⟨rfl, -⟩ := h.unique hr'
  have hscalar : (x.folds? d.element).isSome → x.dtype.isScalar := fun hv => by
    obtain ⟨v, hv⟩ := Option.isSome_iff_exists.mp hv
    exact hx.isScalar_of_isLiteral (isLiteral_of_folds? hv)
  refine hsp.dtype ?_
  rw [hc.dtype rfl hscalar]
  rfl

theorem yields_cast_self (hx : x.dtype = d) (s : Session) : Yields (cast x d) s x s := by
  rw [cast, if_pos hx]
  rfl

/-- The steps of a cast to another type: the lane type, then the lanes. -/
theorem cast_steps (hne : x.dtype ≠ d) (h : Yields (cast x d) s r s') :
    ∃ y s₁, Gives (castElement d.element x) s y s₁ ∧
      (y.lanes = d.lanes ∧ r = y ∨ r = .broadcast ⟨s₁.next, d⟩ y) := by
  rw [cast, if_neg hne] at h
  split at h
  · cases h
  · obtain ⟨y, s₁, hy, hrest⟩ := yields_bind.mp h
    refine ⟨y, s₁, yields_lift.mp hy, ?_⟩
    by_cases hl : y.lanes = d.lanes
    · rw [if_pos hl] at hrest
      cases hrest
      exact .inl ⟨hl, rfl⟩
    · rw [if_neg hl] at hrest
      cases hrest
      exact .inr rfl

/-! A new node is told from those that were there by its number. -/

theorem castElement_new (h : Gives (castElement element x) s y s') :
    (y = x ∧ x.dtype.element = element ∨ s.next ≤ y.nodeId) ∧ s.next ≤ s'.next := by
  unfold castElement at h
  by_cases hel : x.dtype.element = element
  · rw [if_pos hel] at h
    obtain ⟨rfl, rfl⟩ := gives_pure.mp h
    exact ⟨.inl ⟨rfl, hel⟩, Nat.le_refl _⟩
  · rw [if_neg hel] at h
    cases hv : x.folds? element with
    | some v =>
      rw [hv] at h
      obtain ⟨_, s₁, hnote, h⟩ := gives_bind.mp h
      have hy : y.info = ⟨s₁.next, element⟩ := by
        rw [gives_literal h]
        exact info_ofScalar _ v
      cases hnote
      cases h
      exact ⟨.inr (by rw [nodeId, hy]), Nat.le_succ _⟩
    | none =>
      rw [hv] at h
      cases h
      exact ⟨.inr (Nat.le_refl _), Nat.le_succ _⟩

/-- A cast is the value itself, of the type already, or a new node. -/
theorem cast_new (h : Yields (cast x d) s r s') : r = x ∧ x.dtype = d ∨ s.next ≤ r.nodeId := by
  by_cases hsame : x.dtype = d
  · obtain ⟨rfl, -⟩ := h.unique (yields_cast_self hsame s)
    exact .inl ⟨rfl, hsame⟩
  · obtain ⟨y, s₁, hy, hr⟩ := cast_steps hsame h
    obtain ⟨hnew, hs₁⟩ := castElement_new hy
    rcases hr with ⟨hl, rfl⟩ | rfl
    · refine hnew.elim (fun ⟨heq, hel⟩ => ?_) .inr
      -- lane type and lanes are those of `d`
      subst heq
      exact absurd (DType.eq_of_element_eq hel hl) hsame
    · exact .inr hs₁

/-! ### Builds that give equal nodes -/

/-- Both builds go through, from whatever sessions, and their nodes are equal. -/
def GiveEqual (f g : BuildM Expr) : Prop :=
  ∀ s t, ∃ x s' y t', Yields f s x s' ∧ Yields g t y t' ∧ x.equal y

theorem ne_one_of_isVector (hd : d.isVector) : d.lanes ≠ 1 := by
  intro h
  have hlt : 1 < d.lanes := of_decide_eq_true hd
  rw [h] at hlt
  exact absurd hlt (by decide)

/-- A scalar that is no handle is broadcast to any lanes but none. -/
theorem not_refused_of_isScalar (hx : x.dtype.isScalar) (hh : x.dtype.isHandle = false)
    (h0 : n ≠ 0) : ¬ (!x.dtype.isScalar || x.dtype.isHandle || n = 0) = true := by
  simp [hx, hh, h0]

/-- To two or more lanes, by a new node. -/
theorem yields_broadcast (hx : x.dtype.isScalar) (hh : x.dtype.isHandle = false) (h0 : n ≠ 0)
    (h1 : n ≠ 1) (s : Session) :
    Yields (broadcast x n) s (.broadcast ⟨s.next, x.dtype.withLanes n⟩ x)
      { s with next := s.next + 1 } := by
  simp only [broadcast, if_neg (not_refused_of_isScalar hx hh h0), if_neg h1]
  rfl

/-- A broadcast to the lanes of `d` of what has the lane type of `d`. -/
theorem yields_broadcast_of_dtype (hd : d.Valid) (hv : d.isVector) (hy : y.dtype = d.element)
    (s : Session) :
    Yields (broadcast y d.lanes) s (.broadcast ⟨s.next, d⟩ y) { s with next := s.next + 1 } := by
  have hnot : d.isScalar = false := decide_eq_false (ne_one_of_isVector hv)
  have hdh : d.isHandle = false := not_isHandle_of_not_isScalar hd hnot
  have hhandle : y.dtype.isHandle = false := (congrArg DType.isHandle hy).trans hdh
  have hscalar : y.dtype.isScalar := hy ▸ rfl
  have hdy : y.dtype.withLanes d.lanes = d := by
    rw [hy]
    rfl
  have h := yields_broadcast hscalar hhandle hd.lanes_ne_zero (ne_one_of_isVector hv) s
  rwa [hdy] at h

/-- A scalar cast to several lanes, and its cast to the lane type on the way. -/
theorem exists_cast_broadcast (hx : x.dtype.isScalar) (hv : d.isVector) (s : Session) :
    ∃ y s₁, Yields (cast x d.element) s y s₁ ∧ y.dtype = d.element ∧
      Yields (cast x d) s (.broadcast ⟨s₁.next, d⟩ y) { s₁ with next := s₁.next + 1 } := by
  obtain ⟨y, s₁, hy⟩ : ∃ y s₁, Gives (castElement d.element x) s y s₁ := ⟨_, _, rfl⟩
  have hd : y.dtype = d.element := by
    rw [(castElement_converted hy).dtype rfl fun _ => hx, show x.lanes = 1 from
      DType.isScalar_iff.mp hx]
    rfl
  have hl : ¬ y.lanes = d.lanes := by
    rw [Expr.lanes, hd]
    exact fun h => ne_one_of_isVector hv h.symm
  refine ⟨y, s₁, ?_, hd, ?_⟩
  · by_cases hsame : x.dtype = d.element
    · have hkept : castElement d.element x = pure x :=
        if_pos ((DType.element_eq_self hx).trans hsame)
      rw [hkept] at hy
      obtain ⟨rfl, rfl⟩ := gives_pure.mp hy
      exact yields_cast_self hsame s₁
    · rw [cast, if_neg hsame, if_neg (not_refused_of_fits (.inr hx))]
      refine yields_bind.mpr ⟨y, s₁, yields_lift.mpr hy, ?_⟩
      have hlanes : y.lanes = d.element.lanes := congrArg DType.lanes hd
      rw [if_pos hlanes]
      rfl
  · have hne : x.dtype ≠ d := fun h => ne_one_of_isVector hv (h ▸ DType.isScalar_iff.mp hx)
    rw [cast, if_neg hne, if_neg (not_refused_of_fits (.inr hx))]
    refine yields_bind.mpr ⟨y, s₁, yields_lift.mpr hy, ?_⟩
    rw [if_neg hl]
    rfl

/-- A scalar that is no NaN literal, cast over several lanes. -/
theorem giveEqual_cast (hx : x.dtype.isScalar) (hn : x.isNaNLiteral = false) (hd : d.Valid)
    (hv : d.isVector) :
    GiveEqual (cast x d) (cast x d.element >>= fun y => broadcast y d.lanes) := by
  intro s t
  obtain ⟨y, s₁, hy, -, hcast⟩ := exists_cast_broadcast hx hv s
  obtain ⟨z, t₁, hz, hzd, -⟩ := exists_cast_broadcast hx hv t
  have hyz : y.Interchangeable z := by
    have hagree := cast_agree (.inl ⟨rfl, hn⟩ : x.Interchangeable x) d.element s t
    rw [hy, hz] at hagree
    cases hagree with
    | ok h => exact h
  have hspread : Yields (cast x d.element >>= fun y => broadcast y d.lanes) t
      (.broadcast ⟨t₁.next, d⟩ z) { t₁ with next := t₁.next + 1 } :=
    yields_bind.mpr ⟨z, t₁, hz, yields_broadcast_of_dtype hd hv hzd t₁⟩
  exact ⟨_, _, _, _, hcast, hspread, broadcast_equal rfl hyz.equal⟩

end Build

/-- The value is a float that is no number. -/
def Scalar.isNaN (v : Scalar) : Bool := v.float?.any Binary64.isNaN

theorem Scalar.isNaN_toBinary64 {v : Scalar} (h : v.isNaN = false) :
    v.toBinary64.isNaN = false := by
  cases hv : v.float? with
  | none =>
    have heq : v.toBinary64 = (int64 v.toInt64).toBinary64 := by
      rw [toBinary64, hv]
      rfl
    rw [heq]
    exact isNaN_int64 _
  | some x =>
    rw [toBinary64, hv]
    simpa [isNaN, hv] using h

namespace Build

open Lanewise.Expr

variable {x : Expr} {d : DType}

/-- A literal over several lanes. -/
theorem giveEqual_constantOf {v : Scalar} (hv : v.isNaN = false) (hd : d.Valid)
    (hvec : d.isVector) :
    GiveEqual (constantOf v d) ((constantOf v d.element : BuildM Expr) >>=
      fun y => broadcast y d.lanes) := by
  intro s t
  have hnot : ¬ d.isScalar = true := fun h => ne_one_of_isVector hvec (DType.isScalar_iff.mp h)
  have hagree := literal_agree (Scalar.agrees_self (Scalar.isNaN_toBinary64 hv)) d.element s t
  obtain ⟨y, s₁, hy⟩ : ∃ y s₁, Gives (literal v d.element) s y s₁ := ⟨_, _, rfl⟩
  obtain ⟨z, t₁, hz⟩ : ∃ z t₁, Gives (literal v d.element) t z t₁ := ⟨_, _, rfl⟩
  have hzd : z.dtype = d.element := by
    rw [gives_literal hz]
    exact dtype_ofScalar _ v
  rw [hy, hz] at hagree
  have hspread : Gives (constantOf v d) s (.broadcast ⟨s₁.next, d⟩ y)
      { s₁ with next := s₁.next + 1 } := by
    refine gives_bind.mpr ⟨y, s₁, hy, ?_⟩
    rw [if_neg hnot]
    rfl
  have hscalar : Gives (constantOf v d.element) t z t₁ := gives_bind.mpr ⟨z, t₁, hz, rfl⟩
  have hspread' : Yields ((constantOf v d.element : BuildM Expr) >>= fun y => broadcast y d.lanes) t
      (.broadcast ⟨t₁.next, d⟩ z) { t₁ with next := t₁.next + 1 } :=
    yields_bind.mpr ⟨z, t₁, yields_lift.mpr hscalar, yields_broadcast_of_dtype hd hvec hzd t₁⟩
  exact ⟨_, _, _, _, yields_lift.mpr hspread, hspread', broadcast_equal rfl hagree.equal⟩

/-- A broadcast is a cast that keeps the lane type. -/
theorem giveEqual_broadcast {n : UInt16} (hx : x.dtype.isScalar) (hh : x.dtype.isHandle = false)
    (h0 : n ≠ 0) : GiveEqual (broadcast x n) (cast x (x.dtype.withLanes n)) := by
  intro s t
  by_cases h1 : n = 1
  · have hself : x.dtype = x.dtype.withLanes n := by
      rw [h1]
      exact (DType.element_eq_self hx).symm
    refine ⟨x, s, x, t, ?_, yields_cast_self hself t, equal_self x⟩
    simp only [broadcast, if_neg (not_refused_of_isScalar hx hh h0), if_pos h1]
    rfl
  · have hvec : (x.dtype.withLanes n).isVector :=
      (DType.isVector_eq_not_isScalar h0).trans (congrArg not (decide_eq_false h1))
    -- the lane type is that of `x`, so on the way the cast is `x`
    obtain ⟨y, s₁, hy, -, hcast⟩ := exists_cast_broadcast hx hvec t
    have hel : x.dtype = (x.dtype.withLanes n).element := (DType.element_eq_self hx).symm
    obtain ⟨rfl, rfl⟩ := hy.unique (yields_cast_self hel t)
    exact ⟨_, _, _, _, yields_broadcast hx hh h0 h1 s, hcast, broadcast_equal rfl (equal_self y)⟩

end Build

open Build Lanewise.Expr

/-- **Casts, exactly.** A value of a run is cast to a valid type just when it is
scalar or has the lanes of the type, and is refused with a mismatch otherwise. The
result has the type, is the value itself just when that has it already, and is kept
by the same cast again. What a cast over several lanes makes of a scalar, the
broadcast of its cast to the lane type makes too, and likewise for literals; NaN is
left out, since no two NaN literals are equal. A broadcast is a cast that keeps the
lane type. -/
theorem cast_exact {w : World} (h : Reachable w) {x : Expr} (hx : w.Has x) {d : DType}
    (hd : d.Valid) :
    (∀ s, (∃ r s', Yields (cast x d) s r s') ↔ x.dtype.isScalar ∨ x.lanes = d.lanes) ∧
    (¬ (x.dtype.isScalar ∨ x.lanes = d.lanes) → ∀ s,
      (cast x d).run.run s = (.error (.dtypeMismatch "cast" x.dtype d), s)) ∧
    (∀ r s', Yields (cast x d) w.session r s' →
      r.dtype = d ∧ (r.sameNode x ↔ x.dtype = d) ∧ ∀ t, Yields (cast r d) t r t) ∧
    (x.dtype.isScalar → x.isNaNLiteral = false → d.isVector →
      GiveEqual (cast x d) (do broadcast (← cast x d.element) d.lanes)) ∧
    (d.isVector → ∀ v : Scalar, v.isNaN = false →
      GiveEqual (constantOf v d) (do broadcast (← constantOf v d.element) d.lanes)) ∧
    (x.dtype.isScalar → x.dtype.isHandle = false → ∀ n, n ≠ 0 →
      GiveEqual (broadcast x n) (cast x (x.dtype.withLanes n))) := by
  have ht : x.NodeTyped := h.nodeTyped hx
  have hfits : x.Fits d ↔ x.dtype.isScalar ∨ x.lanes = d.lanes := or_comm
  rw [← hfits]
  refine ⟨fun s => ⟨fun ⟨r, s', hr⟩ => fits_of_cast ht.valid hr, fun hf => ?_⟩,
    run_cast_error ht.valid, fun r s' hr => ⟨cast_dtype ht hr, ⟨fun hsame => ?_, fun heq => ?_⟩,
      yields_cast_self (cast_dtype ht hr)⟩, fun hs hn hv => giveEqual_cast hs hn hd hv,
    fun hv v hn => giveEqual_constantOf hn hd hv, fun hs hh n h0 => giveEqual_broadcast hs hh h0⟩
  · obtain ⟨r, s', hr, -⟩ := exists_cast hf s
    exact ⟨r, s', hr⟩
  · obtain ⟨P, hP, hexprs, -⟩ := h.sound
    have hlt : x.nodeId < w.session.next := hP.numbered x (World.Sound.has hP hexprs hx)
    have hid : r.nodeId = x.nodeId := of_decide_eq_true hsame
    rcases cast_new hr with ⟨-, heq⟩ | hnew
    · exact heq
    · omega
  · obtain ⟨rfl, -⟩ := hr.unique (yields_cast_self heq w.session)
    exact decide_eq_true rfl

/-- The number three over four lanes: by a cast, by a cast to the lane type and a
broadcast, and as a literal. -/
theorem three_cast_exact : Reachable World.products ∧ World.products.Has World.three ∧
    (⟨.int, 64, 4⟩ : DType).Valid ∧
    (∃ r s', Yields (cast World.three ⟨.int, 64, 4⟩) World.products.session r s' ∧
      r.dtype = ⟨.int, 64, 4⟩ ∧ r.sameNode World.three = false) ∧
    GiveEqual (cast World.three ⟨.int, 64, 4⟩)
      (do broadcast (← cast World.three (.int 64)) 4) ∧
    GiveEqual (constantOf (.int32 3) ⟨.int, 64, 4⟩)
      (do broadcast (← constantOf (.int32 3) (.int 64)) 4) := by
  have hvalid : (⟨.int, 64, 4⟩ : DType).Valid := by decide
  obtain ⟨hiff, -, hresult, hspread, hconstant, -⟩ :=
    cast_exact World.reachable_products World.products_has_three hvalid
  obtain ⟨r, s', hr⟩ := (hiff World.products.session).mpr (.inl rfl)
  obtain ⟨hd, hsame, -⟩ := hresult r s' hr
  have hnew : ¬ r.sameNode World.three = true := fun h => absurd (hsame.mp h) (by decide)
  exact ⟨World.reachable_products, World.products_has_three, hvalid,
    ⟨r, s', hr, hd, Bool.eq_false_iff.mpr hnew⟩, hspread rfl rfl rfl, hconstant rfl _ rfl⟩

end Lanewise
