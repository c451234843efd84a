/-
# Builders keep the inventory

One statement for each builder: on nodes of an inventory, and for types that
are valid, it extends the inventory. Where another builder goes on with the
result, its type is said too.

Key theorems: `Build.literal_makes`, `Build.coerce_makes`, `Operator.build_tries`,
`Build.cast_tries`, `Build.combine_tries`, `Build.isnan_tries`.
-/
import Lanewise.Build.Intrinsic
import Lanewise.Proofs.Inventory
import Lanewise.Proofs.Reconcile

namespace Lanewise

namespace Build

variable {P : Set Expr} {d element : DType} {e : Expr}

/-! ### Literals, variables and broadcasts -/

theorem literal_makes (hd : d.Valid) (hs : d.isScalar) (v : Scalar) :
    Makes P (literal v d) (·.dtype = d) :=
  Makes.node (f := fun i => .ofScalar i v) (fun i => Expr.info_ofScalar i v)
    (fun i x hx => by simp [Expr.operands_ofScalar] at hx)
    (fun i hi => Expr.ofScalar_typed (hi ▸ hd) (hi ▸ hs) v)

/-- A literal in the place of a scalar. -/
theorem literal_makes_withLanes (hd : element.Valid) (hs : element.isScalar) (he : e.dtype.isScalar)
    (v : Scalar) : Makes P (literal v element) (·.dtype = element.withLanes e.lanes) := by
  refine (literal_makes hd hs v).mono fun x hx => hx.trans ?_
  have hl : e.lanes = 1 := DType.isScalar_iff.mp he
  rw [hl]
  exact (DType.element_eq_self hs).symm

/-- A valid type of several lanes, as a broadcast needs it. -/
theorem not_isHandle_of_not_isScalar (hd : d.Valid) (hs : d.isScalar = false) :
    d.isHandle = false := by
  rw [Bool.eq_false_iff]
  intro hh
  rw [hd.isScalar_of_isHandle hh] at hs
  simp at hs

theorem broadcast_makes (he : e ∈ P) (hd : d.Valid) (hs : d.isScalar = false)
    (hel : e.dtype = d.element) : Makes P (do return .broadcast (← fresh d) e) (·.dtype = d) := by
  refine Makes.node (fun _ => rfl) (fun i x hx => ?_) (fun i hi => ?_)
  · rw [List.mem_singleton.mp hx]
    exact he
  · have hh : e.dtype.isHandle = d.isHandle := by rw [hel]; rfl
    refine ⟨hi ▸ hd, ?_, hi ▸ hel, hh.trans (not_isHandle_of_not_isScalar hd hs)⟩
    rw [hi, hd.isVector_eq, hs]
    rfl

theorem constant_makes (v : Scalar) : Makes P (constant v) (·.dtype = v.dtype) :=
  literal_makes v.dtype_valid (by cases v <;> rfl) v

theorem constantOf_makes (hd : d.Valid) (v : Scalar) : Makes P (constantOf v d) (·.dtype = d) := by
  refine (literal_makes hd.element rfl v).bind fun Q x _ hx hxd => ?_
  by_cases hs : d.isScalar
  · rw [if_pos hs]
    exact Makes.pure hx (hxd.trans (DType.element_eq_self hs))
  · rw [if_neg hs]
    exact broadcast_makes hx hd (by simpa using hs) hxd

theorem varOf_makes (hd : d.Valid) (name : String) : Makes P (varOf name d) (·.dtype = d) :=
  Makes.node (fun _ => rfl) (fun _ _ hx => by cases hx)
    (fun i hi => show i.dtype.Valid from hi ▸ hd)

theorem stringImm_makes (s : String) : Makes P (stringImm s) (·.dtype = .handle) :=
  Makes.node (fun _ => rfl) (fun _ _ hx => by cases hx) (fun _ hi => hi)

theorem broadcast_tries (he : e ∈ P) (n : UInt16) : Tries P (broadcast e n) fun _ => True := by
  intro s hs
  have hd : e.dtype.Valid := (hs.typed e he).valid
  refine Tries.guard (fun hc => ?_) s hs
  have hc' : (e.dtype.isScalar = true ∧ e.dtype.isHandle = false) ∧ n ≠ 0 := by simpa using hc
  by_cases hn : n = 1
  · rw [if_pos hn]
    exact Tries.pure he trivial
  · rw [if_neg hn]
    refine (broadcast_makes he (hd.withLanes hc'.1.2 hc'.2) ?_ ?_).tries.forget
    · exact decide_eq_false hn
    · exact (DType.element_eq_self hc'.1.1).symm

/-! ### Operands of one type -/

/-- The lane type of `d` over the lanes of a node that fits `d`. -/
theorem valid_of_fits (hd : d.Valid) (hf : e.Fits d) :
    (d.element.withLanes e.lanes).Valid := by
  rcases hf with hl | hs
  · rw [hl]
    exact hd
  · rw [show e.lanes = 1 from DType.isScalar_iff.mp hs]
    exact hd.element

/-- A node converted to another lane type. -/
theorem castNode_makes (he : e ∈ P) (hne : e.dtype.element ≠ element)
    (hel : element.element = element) (hd : (element.withLanes e.lanes).Valid) :
    Makes P (do return .cast (← fresh (element.withLanes e.lanes)) e)
      (·.dtype = element.withLanes e.lanes) := by
  refine Makes.node (fun _ => rfl) (fun i x hx => ?_) (fun i hi => ⟨hi ▸ hd, ?_, ?_⟩)
  · rw [List.mem_singleton.mp hx]
    exact he
  · rw [hi]
    rfl
  · rw [hi, DType.element_withLanes, hel]
    exact hne.symm

theorem coerceElement_makes (he : e ∈ P) (hel : element.Valid) (hs : element.isScalar)
    (hd : (element.withLanes e.lanes).Valid) :
    Makes P (coerceElement element e) (·.dtype = element.withLanes e.lanes) := by
  unfold coerceElement
  by_cases hsame : e.dtype.element = element
  · rw [if_pos hsame]
    exact Makes.pure he (hsame ▸ rfl)
  · rw [if_neg hsame]
    cases ha : e.adapts? element with
    | none =>
      exact Makes.journal _ (castNode_makes he hsame (DType.element_eq_self hs) hd)
    | some v => exact literal_makes_withLanes hel hs (Expr.isScalar_of_adapts? ha) v

theorem coerceLanes_makes (he : e ∈ P) (hd : d.Valid) (hel : e.dtype.element = d.element)
    (hf : e.Fits d) : Makes P (coerceLanes d.lanes e) (·.dtype = d) := by
  unfold coerceLanes
  by_cases hl : e.lanes = d.lanes
  · rw [if_pos hl]
    exact Makes.pure he (DType.eq_of_element_eq hel hl)
  · have hes : e.dtype.isScalar := hf.resolve_left hl
    have hds : d.isScalar = false := DType.isScalar_eq_false hes hl
    have hdt : e.dtype.withLanes d.lanes = d := DType.eq_of_element_eq hel rfl
    rw [if_neg hl, hdt]
    exact Makes.journal _ (broadcast_makes he hd hds ((DType.element_eq_self hes).symm.trans hel))

/-- An operand that fits a type is brought to it. -/
theorem coerce_makes (he : e ∈ P) (hd : d.Valid) (hf : e.Fits d) :
    Makes P (coerce d e) (·.dtype = d) := by
  refine (coerceElement_makes he hd.element rfl (valid_of_fits hd hf)).bind fun Q x _ hx hxd => ?_
  exact coerceLanes_makes hx hd (by rw [hxd]; rfl) (hf.retyped hxd)

end Build

/-! ### Operators -/

variable {P : Set Expr} {a b : Expr}

/-- An operator brings both sides to the common type, and the node over them is typed. -/
theorem Operator.build_tries (op : Operator) (ha : a ∈ P) (hb : b ∈ P) :
    Build.Tries P (op.build a b) fun _ => True := by
  intro s hs
  rw [op.build_eq]
  refine Build.Tries.check (fun d hd => ?_) s hs
  obtain ⟨⟨hta, htb⟩, hcommon⟩ := Operator.operandType_eq_ok_iff.mp hd
  obtain ⟨hor, hfa, hfb⟩ := Build.fits_of_commonType hcommon
  have hvalid : d.Valid := by
    rcases hor with rfl | rfl
    · exact (hs.typed a ha).valid
    · exact (hs.typed b hb).valid
  have htd : op.Takes d := by
    rcases hor with rfl | rfl
    · exact hta
    · exact htb
  refine (Build.coerce_makes ha hvalid hfa).tries.bind fun Q l hPQ hl hld => ?_
  refine (Build.coerce_makes (hPQ hb) hvalid hfb).tries.bind fun R r hQR hr hrd => ?_
  refine (Build.Makes.node (op.info_node · l r)
    (fun i x hx => ?_) (fun i hi => ?_)).tries_node.forget
  · rw [op.operands_node] at hx
    rcases List.mem_cons.mp hx with rfl | hx
    · exact hQR hl
    · rw [List.mem_singleton.mp hx]
      exact hr
  · exact Operator.node_typed hvalid htd hi hld hrd

namespace Build

theorem unary_tries (op : UnaryOp) (ha : a ∈ P)
    (ht : match op with
      | .not => a.dtype.isBool
      | .bitwiseNot => a.dtype.isIntegral) :
    Tries P (do return .unary (← fresh a.dtype) op a) (·.dtype = a.dtype) := by
  intro s hs
  refine (Makes.node (f := fun i => .unary i op a) (fun _ => rfl) (fun i x hx => ?_)
    (fun i hi => ⟨?_, hi, ht⟩)).tries_node s hs
  · rw [List.mem_singleton.mp hx]
    exact ha
  · rw [hi]
    exact (hs.typed a ha).valid

theorem bitwiseNot_tries (ha : a ∈ P) : Tries P (bitwiseNot a) (·.dtype = a.dtype) :=
  Tries.guard fun hc => unary_tries .bitwiseNot ha (by simpa using hc)

theorem logicalNot_tries (ha : a ∈ P) : Tries P (logicalNot a) (·.dtype = a.dtype) :=
  Tries.guard fun hc => unary_tries .not ha (by simpa using hc)

theorem neg_tries (ha : a ∈ P) : Tries P (neg a) fun _ => True := by
  intro s hs
  have hd : a.dtype.Valid := (hs.typed a ha).valid
  refine (literal_makes hd.element rfl _).tries.bind (fun Q x hPQ hx _ => ?_) s hs
  exact (Operator.binary .mul).build_tries (hPQ ha) hx

/-! ### Conditions -/

theorem fold_tries (op : BinaryOp) : ∀ (es : List Expr) {P : Set Expr} {a : Expr}, a ∈ P →
    (∀ e ∈ es, e ∈ P) → Tries P (es.foldlM (binary op) a) fun _ => True
  | [], _, _, ha, _ => Tries.pure ha trivial
  | e :: es, P, a, ha, hes => by
    rw [List.foldlM_cons]
    refine ((Operator.binary op).build_tries ha (hes e List.mem_cons_self)).bind ?_
    intro Q x hPQ hx _
    exact fold_tries op es hx fun y hy => hPQ (hes y (List.mem_cons_of_mem _ hy))

theorem combine_tries (name : String) (op : BinaryOp) {es : List Expr} (hes : ∀ e ∈ es, e ∈ P) :
    Tries P (combine name op es) fun _ => True := by
  cases es with
  | nil => exact Tries.throw _
  | cons e es =>
    exact fold_tries op es (hes e List.mem_cons_self) fun y hy => hes y (List.mem_cons_of_mem _ hy)

/-! ### Casts and calls -/

theorem castElement_makes {element : DType} (ha : a ∈ P) (hel : element.Valid)
    (hs : element.isScalar) (hlit : a.isLiteral → a.dtype.isScalar)
    (hd : (element.withLanes a.lanes).Valid) :
    Makes P (castElement element a) (·.dtype = element.withLanes a.lanes) := by
  unfold castElement
  by_cases hsame : a.dtype.element = element
  · rw [if_pos hsame]
    exact Makes.pure ha (hsame ▸ rfl)
  · rw [if_neg hsame]
    cases hf : a.folds? element with
    | none => exact castNode_makes ha hsame (DType.element_eq_self hs) hd
    | some v =>
      have has : a.dtype.isScalar := hlit (Expr.isLiteral_of_folds? hf)
      exact Makes.journal _ (literal_makes_withLanes hel hs has v)

/-- What a cast refuses does not fit. -/
theorem fits_of_not_refused {d : DType} (ha : a.dtype.Valid)
    (h : ¬ (a.dtype.isVector && a.lanes ≠ d.lanes) = true) : a.Fits d := by
  by_cases hl : a.lanes = d.lanes
  · exact .inl hl
  · refine .inr ?_
    have hv : a.dtype.isVector = false := by simpa [hl] using h
    rw [ha.isVector_eq] at hv
    simpa using hv

/-- A vector is not cast to another lane count. -/
theorem run_cast_error {d : DType} (ha : a.dtype.Valid) (hf : ¬ a.Fits d) (s : Session) :
    (cast a d).run.run s = (.error (.dtypeMismatch "cast" a.dtype d), s) := by
  have hne : a.dtype ≠ d := fun h => hf (.inl (congrArg DType.lanes h))
  have hrefused : (a.dtype.isVector && a.lanes ≠ d.lanes) = true := by
    by_contra h
    exact hf (fits_of_not_refused ha h)
  rw [cast, if_neg hne, if_pos hrefused]
  rfl

/-- What a cast gives has the type that was asked for. -/
theorem cast_tries {d : DType} (ha : a ∈ P) (hd : d.Valid) : Tries P (cast a d) (·.dtype = d) := by
  intro s hs
  have hta : a.NodeTyped := hs.typed a ha
  by_cases hsame : a.dtype = d
  · rw [cast, if_pos hsame]
    exact Tries.pure ha hsame s hs
  · rw [cast, if_neg hsame]
    refine Tries.guard (fun hc => ?_) s hs
    have hf : a.Fits d := fits_of_not_refused hta.valid hc
    refine (castElement_makes ha hd.element rfl hta.isScalar_of_isLiteral
      (valid_of_fits hd hf)).tries.bind fun Q y hPQ hy hyd => ?_
    have hyl : y.lanes = a.lanes := by
      rw [Expr.lanes, hyd]
      rfl
    have hyel : y.dtype.element = d.element := by
      rw [hyd]
      rfl
    by_cases hl : y.lanes = d.lanes
    · rw [if_pos hl]
      exact Tries.pure hy (DType.eq_of_element_eq hyel hl)
    · have has : a.dtype.isScalar := hf.resolve_left (hyl ▸ hl)
      have hys : y.dtype.isScalar := DType.isScalar_iff.mpr
        (hyl.trans (DType.isScalar_iff.mp has))
      have hds : d.isScalar = false := DType.isScalar_eq_false hys hl
      rw [if_neg hl]
      exact (broadcast_makes hy hd hds ((DType.element_eq_self hys).symm.trans hyel)).tries_node

theorem call_makes {d : DType} (name : String) {args : List Expr} (hargs : ∀ e ∈ args, e ∈ P)
    (hd : d.Valid) : Makes P (call name args d) (·.dtype = d) :=
  Makes.node (fun _ => rfl) (fun _ => hargs) (fun i hi => show i.dtype.Valid from hi ▸ hd)

/-- Each of the forms that a test for NaN can take is typed. -/
theorem isnan_tries (ha : a ∈ P) (hd : a.dtype.Valid) :
    Tries P (isnan a) fun _ => True := by
  have hbool : (DType.bool a.dtype.lanes).Valid := DType.bool_valid hd.lanes_ne_zero
  have hfold (v : Bool) (n : Note) : Tries P
      (do Build.journal n; constantOf (.bool v) (.bool a.dtype.lanes)) fun _ => True :=
    Tries.journal n (constantOf_makes hbool _).tries.forget
  simp only [isnan]
  cases a.dtype.code with
  | int | uint => exact hfold false _
  | handle => exact Tries.throw _
  | float =>
    cases a.floatValue? with
    | some v => exact hfold v.isNaN _
    | none =>
      simp only
      have hcall (Q : Set Expr) (x : Expr) (hx : x ∈ Q) :
          Tries Q (call "isnan" [x] (.bool a.dtype.lanes)) fun _ => True :=
        (call_makes "isnan" (by simpa using hx) hbool).tries.forget
      by_cases hb : a.dtype.bits < 32
      · have hfloat : ((DType.float 32).withLanes a.dtype.lanes).Valid :=
          DType.Valid.withLanes (by decide) (by decide) hd.lanes_ne_zero
        simp only [hb, if_true]
        exact (cast_tries ha hfloat).bind fun Q x _ hx _ => hcall Q x hx
      · simp only [hb, if_false]
        exact hcall P a ha

end Build

end Lanewise
