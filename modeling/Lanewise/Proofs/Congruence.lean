/-
# Builders respect equality

A builder that is run twice, on operands that are equal one by one, ends twice
in the same way: with equal nodes or with one error. Of an operand a builder
sees the type and, if it is a literal, the number, and equality keeps both; NaN
literals are left out, as a literal written anew from one is not equal to
another. `Interchangeable` is the relation that every builder passes on from
operands to results. It says nothing of the numbers of new nodes, so the two
runs may start from any two sessions, and sharing plays no part.

Key definitions: `Expr.Interchangeable`, `Build.Agree`, `Build.AgreeOrFail`, `Request.Parallel`.
Key theorems: `Expr.interchangeable_of_equal`, `Build.coerce_agree`, `Build.operator_agree`,
`Request.build_agree`, `build_respects_equal`.
-/
import Lanewise.Build.Intrinsic
import Lanewise.Proofs.Equivalence
import Lanewise.Proofs.ImplicitCast
import Mathlib.Data.List.Forall2

namespace Lanewise

/-! ### Numbers -/

theorem Binary64.toInt64_of_isZero {x : Binary64} (h : x.isZero) : x.toInt64 = 0 := by
  have hx : x.exponentField = 0 ∧ x.fraction = 0 := by simpa [isZero] using h
  have hreading : x.reading = .finite x.isNegative 0 (-1074) := by simp [reading, hx.1, hx.2]
  simp only [toInt64, hreading, wholePart, Nat.zero_mul, Nat.zero_div]
  cases x.isNegative <;> rfl

theorem Binary64.toInt64_eq_of_numEq {x y : Binary64} (h : x.numEq y) : x.toInt64 = y.toInt64 := by
  obtain ⟨-, -, rfl | ⟨hx, hy⟩⟩ := numEq_iff.mp h
  · rfl
  · rw [toInt64_of_isZero hx, toInt64_of_isZero hy]

theorem Binary64.isZero_eq_of_numEq {x y : Binary64} (h : x.numEq y) : x.isZero = y.isZero := by
  obtain ⟨-, -, rfl | ⟨hx, hy⟩⟩ := numEq_iff.mp h
  · rfl
  · rw [hx, hy]

namespace Scalar

/-- The values are written as one number in every type. -/
structure Agrees (v w : Scalar) : Prop where
  isFloat : v.isFloat = w.isFloat
  isTruthy : v.isTruthy = w.isTruthy
  toInt64 : v.toInt64 = w.toInt64
  toBinary64 : v.toBinary64.numEq w.toBinary64

theorem agrees_self {v : Scalar} (h : v.toBinary64.isNaN = false) : v.Agrees v :=
  ⟨rfl, rfl, rfl, by rw [Binary64.numEq_self, h]; rfl⟩

theorem agrees_int64 (v : Int64) : (int64 v).Agrees (int64 v) := agrees_self (isNaN_int64 v)

theorem agrees_float64 {x y : Binary64} (h : x.numEq y) : (float64 x).Agrees (float64 y) :=
  ⟨rfl, congrArg (!·) (Binary64.isZero_eq_of_numEq h), Binary64.toInt64_eq_of_numEq h, h⟩

end Scalar

/-! ### Interchangeable nodes -/

namespace Expr

variable {a b : Expr} {d : DType} {i j : NodeInfo} {v w : Scalar}

/-- No builder tells `a` from `b`: they are one node, or alike with equal operands. -/
def Interchangeable (a b : Expr) : Prop :=
  a = b ∧ a.isNaNLiteral = false ∨ a.alike b ∧ equalAll a.operands b.operands

/-- Equal nodes of a run are interchangeable, a NaN literal apart. -/
theorem interchangeable_of_equal (hco : a.sameNode b → a = b) (hn : a.isNaNLiteral = false)
    (h : a.equal b) : a.Interchangeable b := by
  rw [equal_eq, Bool.or_eq_true, Bool.and_eq_true] at h
  exact h.imp (fun hs => ⟨hco hs, hn⟩) id

namespace Interchangeable

theorem equal (h : a.Interchangeable b) : a.equal b := by
  rcases h with ⟨rfl, -⟩ | ⟨halike, hops⟩
  · exact equal_self a
  · exact equal_of_alike halike hops

theorem dtype (h : a.Interchangeable b) : a.dtype = b.dtype := by
  rcases h with ⟨rfl, -⟩ | ⟨halike, -⟩
  · rfl
  · exact dtype_eq_of_alike halike

theorem lanes (h : a.Interchangeable b) : a.lanes = b.lanes := congrArg DType.lanes h.dtype

/-- They show one number, or none. -/
theorem number? (h : a.Interchangeable b) : Option.Rel Scalar.Agrees a.number? b.number? := by
  rcases h with ⟨rfl, hn⟩ | ⟨halike, -⟩
  · cases hv : a.number? with
    | none => exact .none
    | some v => exact .some (Scalar.agrees_self (isNaN_of_number? hv hn))
  · have hform := form_eq_of_alike halike
    cases a, b, hform using form_cases with
    | intImm i v j w =>
      obtain ⟨-, rfl⟩ : i.dtype = j.dtype ∧ v = w := by simpa [alike] using halike
      exact .some (Scalar.agrees_int64 v)
    | floatImm i x j y =>
      have hxy : x.numEq y = true := (by simpa [alike] using halike :
        i.dtype = j.dtype ∧ x.numEq y = true).2
      exact .some (Scalar.agrees_float64 hxy)
    | stringImm | var | unary | binary | bitwise | cast | broadcast | call => exact .none

theorem floatValue? (h : a.Interchangeable b) :
    Option.Rel (fun x y => x.numEq y = true) a.floatValue? b.floatValue? := by
  rcases h with ⟨rfl, hn⟩ | ⟨halike, -⟩
  · cases a with
    | floatImm i x => exact .some (by rw [Binary64.numEq_self, show x.isNaN = false from hn]; rfl)
    | _ => exact .none
  · have hform := form_eq_of_alike halike
    cases a, b, hform using form_cases with
    | floatImm i x j y =>
      exact .some (by simpa [alike] using halike : i.dtype = j.dtype ∧ x.numEq y = true).2
    | _ => exact .none

theorem folds? (h : a.Interchangeable b) (element : DType) :
    Option.Rel Scalar.Agrees (a.folds? element) (b.folds? element) := by
  unfold Expr.folds?
  split
  · exact .none
  · exact h.number?

theorem adapts? (h : a.Interchangeable b) (element : DType) :
    Option.Rel Scalar.Agrees (a.adapts? element) (b.adapts? element) := by
  have hfolds := h.folds? element
  unfold Expr.adapts?
  rw [h.dtype]
  split
  · generalize a.folds? element = x, b.folds? element = y at hfolds
    cases hfolds with
    | none => exact .none
    | @some v w hvw =>
      simp only [Option.filter, hvw.isFloat]
      split
      · exact .some hvw
      · exact .none
  · exact .none

theorem adapts?_isSome (h : a.Interchangeable b) (element : DType) :
    (a.adapts? element).isSome = (b.adapts? element).isSome := by
  have hadapts := h.adapts? element
  generalize a.adapts? element = x, b.adapts? element = y at hadapts
  cases hadapts <;> rfl

end Interchangeable

theorem ofScalar_interchangeable (hij : i.dtype = j.dtype) (h : v.Agrees w) :
    (ofScalar i v).Interchangeable (ofScalar j w) := by
  refine .inr ⟨?_, by rw [operands_ofScalar, operands_ofScalar]; rfl⟩
  unfold ofScalar
  rw [hij, h.isTruthy, h.toInt64]
  split
  · simp [alike, hij, h.toBinary64]
  · split <;> simp [alike, hij]

/-! New nodes over interchangeable operands. -/

theorem cast_interchangeable (hij : i.dtype = j.dtype) (h : a.Interchangeable b) :
    (cast i a).Interchangeable (cast j b) :=
  .inr ⟨by simp [alike, hij], by simp [operands, equalAll, h.equal]⟩

theorem broadcast_interchangeable (hij : i.dtype = j.dtype) (h : a.Interchangeable b) :
    (broadcast i a).Interchangeable (broadcast j b) :=
  .inr ⟨by simp [alike, hij], by simp [operands, equalAll, h.equal]⟩

theorem unary_interchangeable (op : UnaryOp) (hij : i.dtype = j.dtype) (h : a.Interchangeable b) :
    (unary i op a).Interchangeable (unary j op b) :=
  .inr ⟨by simp [alike, hij], by simp [operands, equalAll, h.equal]⟩

theorem node_interchangeable {a' b' : Expr} (op : Operator) (hij : i.dtype = j.dtype)
    (h : a.Interchangeable b) (h' : a'.Interchangeable b') :
    (op.node i a a').Interchangeable (op.node j b b') :=
  .inr ⟨by cases op <;> simp [Operator.node, alike, hij],
    by simp [equalAll, h.equal, h'.equal]⟩

theorem equalAll_of_forall₂ {as bs : List Expr} (h : List.Forall₂ Interchangeable as bs) :
    equalAll as bs := by
  induction h with
  | nil => rfl
  | cons h _ ih => rw [equalAll, h.equal, ih]; rfl

theorem call_interchangeable {as bs : List Expr} (name : String) (hij : i.dtype = j.dtype)
    (h : List.Forall₂ Interchangeable as bs) :
    (call i name as).Interchangeable (call j name bs) :=
  .inr ⟨by simp [alike, hij], equalAll_of_forall₂ h⟩

end Expr

/-! ### Two runs -/

namespace Build

open Lanewise.Expr

/-- Both builds give interchangeable nodes, whatever sessions they start from. -/
def Agree (f g : NodeM Expr) : Prop := ∀ s t, (f.run s).1.Interchangeable (g.run t).1

/-- Interchangeable nodes, or one error. -/
inductive SameOutcome : Except BuildError Expr → Except BuildError Expr → Prop
  | ok {a b : Expr} (h : a.Interchangeable b) : SameOutcome (.ok a) (.ok b)
  | error (err : BuildError) : SameOutcome (.error err) (.error err)

/-- Both builds succeed with interchangeable nodes or fail with one error, whatever
sessions they start from. -/
def AgreeOrFail (f g : BuildM Expr) : Prop := ∀ s t, SameOutcome (f.run.run s).1 (g.run.run t).1

variable {a b a' b' : Expr} {v w : Scalar}

theorem Agree.pure (h : a.Interchangeable b) : Agree (Pure.pure a) (Pure.pure b) := fun _ _ => h

theorem Agree.bind {f g : NodeM Expr} {f' g' : Expr → NodeM Expr} (h : Agree f g)
    (h' : ∀ x y, x.Interchangeable y → Agree (f' x) (g' y)) : Agree (f >>= f') (g >>= g') :=
  fun s t => h' _ _ (h s t) _ _

/-- What is written in the journals plays no part. -/
theorem Agree.journal {f g : NodeM Expr} (m n : Note) (h : Agree f g) :
    Agree (do Build.journal m; f) (do Build.journal n; g) := fun _ _ => h _ _

theorem Agree.node {f g : NodeInfo → Expr} (d : DType)
    (h : ∀ i j : NodeInfo, i.dtype = j.dtype → (f i).Interchangeable (g j)) :
    Agree (do return f (← fresh d)) (do return g (← fresh d)) := fun _ _ => h _ _ rfl

theorem Agree.lift {f g : NodeM Expr} (h : Agree f g) : AgreeOrFail (liftM f) (liftM g) :=
  fun s t => .ok (h s t)

namespace AgreeOrFail

theorem pure (h : a.Interchangeable b) : AgreeOrFail (Pure.pure a) (Pure.pure b) :=
  (Agree.pure h).lift

theorem throw (err : BuildError) :
    AgreeOrFail (MonadExcept.throw err) (MonadExcept.throw err) := fun _ _ => .error err

theorem node {f g : NodeInfo → Expr} (d : DType)
    (h : ∀ i j : NodeInfo, i.dtype = j.dtype → (f i).Interchangeable (g j)) :
    AgreeOrFail (do return f (← fresh d)) (do return g (← fresh d)) :=
  fun _ _ => .ok (h _ _ rfl)

theorem bind {f g : BuildM Expr} {f' g' : Expr → BuildM Expr} (h : AgreeOrFail f g)
    (h' : ∀ x y, x.Interchangeable y → AgreeOrFail (f' x) (g' y)) :
    AgreeOrFail (f >>= f') (g >>= g') := by
  intro s t
  have hst := h s t
  cases hf : f.run.run s with
  | mk result s' =>
    cases hg : g.run.run t with
    | mk result' t' =>
      rw [hf, hg] at hst
      cases hst with
      | ok hxy =>
        rw [run_bind_ok hf, run_bind_ok hg]
        exact h' _ _ hxy s' t'
      | error err =>
        rw [run_bind_error hf, run_bind_error hg]
        exact .error err

/-- The same check comes first in both. -/
theorem check {α : Type} (x : Except BuildError α) {f g : α → BuildM Expr}
    (h : ∀ c, AgreeOrFail (f c) (g c)) : AgreeOrFail (liftM x >>= f) (liftM x >>= g) := by
  cases x with
  | error err => exact throw err
  | ok c => exact h c

theorem guard {c : Prop} [Decidable c] (err : BuildError) {f g : BuildM Expr}
    (h : AgreeOrFail f g) : AgreeOrFail (if c then MonadExcept.throw err else f)
      (if c then MonadExcept.throw err else g) := by
  split
  · exact throw err
  · exact h

theorem journal {f g : BuildM Expr} (m n : Note) (h : AgreeOrFail f g) :
    AgreeOrFail (do Build.journal m; f) (do Build.journal n; g) := fun _ _ => h _ _

end AgreeOrFail

/-! ### Conversions -/

theorem literal_agree (h : v.Agrees w) (d : DType) : Agree (literal v d) (literal w d) :=
  Agree.node (f := fun i => ofScalar i v) (g := fun i => ofScalar i w) d
    fun _ _ hij => ofScalar_interchangeable hij h

theorem broadcastNode_agree (h : a.Interchangeable b) (d : DType) :
    Agree (do return .broadcast (← fresh d) a) (do return .broadcast (← fresh d) b) :=
  Agree.node d fun _ _ hij => broadcast_interchangeable hij h

theorem castNode_agree (h : a.Interchangeable b) (element : DType) :
    Agree (do return .cast (← fresh (element.withLanes a.lanes)) a)
      (do return .cast (← fresh (element.withLanes b.lanes)) b) := by
  rw [h.lanes]
  exact Agree.node _ fun _ _ hij => cast_interchangeable hij h

theorem constantOf_agree (h : v.Agrees w) (d : DType) :
    Agree (constantOf v d) (constantOf w d) := by
  refine (literal_agree h d.element).bind fun x y hxy => ?_
  split
  · exact Agree.pure hxy
  · exact broadcastNode_agree hxy d

theorem coerceElement_agree (h : a.Interchangeable b) (element : DType) :
    Agree (coerceElement element a) (coerceElement element b) := by
  have hadapts := h.adapts? element
  unfold coerceElement
  rw [h.dtype]
  split
  · exact Agree.pure h
  · generalize a.adapts? element = x, b.adapts? element = y at hadapts
    cases hadapts with
    | some hvw => exact literal_agree hvw element
    | none => exact Agree.journal _ _ (castNode_agree h element)

theorem coerceLanes_agree (h : a.Interchangeable b) (lanes : UInt16) :
    Agree (coerceLanes lanes a) (coerceLanes lanes b) := by
  unfold coerceLanes
  rw [h.lanes, h.dtype]
  split
  · exact Agree.pure h
  · exact Agree.journal _ _ (broadcastNode_agree h _)

/-- Interchangeable nodes are coerced in the same way. -/
theorem coerce_agree (h : a.Interchangeable b) (d : DType) : Agree (coerce d a) (coerce d b) :=
  (coerceElement_agree h d.element).bind fun _ _ hxy => coerceLanes_agree hxy d.lanes

theorem castElement_agree (h : a.Interchangeable b) (element : DType) :
    Agree (castElement element a) (castElement element b) := by
  have hfolds := h.folds? element
  unfold castElement
  rw [h.dtype]
  split
  · exact Agree.pure h
  · generalize a.folds? element = x, b.folds? element = y at hfolds
    cases hfolds with
    | some hvw => exact Agree.journal _ _ (literal_agree hvw element)
    | none => exact castNode_agree h element

theorem cast_agree (h : a.Interchangeable b) (d : DType) : AgreeOrFail (cast a d) (cast b d) := by
  unfold cast
  rw [h.dtype, h.lanes]
  split
  · exact AgreeOrFail.pure h
  · refine AgreeOrFail.guard _ ((castElement_agree h d.element).lift.bind fun x y hxy => ?_)
    rw [hxy.lanes]
    split
    · exact AgreeOrFail.pure hxy
    · exact AgreeOrFail.node d fun _ _ hij => broadcast_interchangeable hij hxy

theorem broadcast_agree (h : a.Interchangeable b) (lanes : UInt16) :
    AgreeOrFail (broadcast a lanes) (broadcast b lanes) := by
  unfold broadcast
  rw [h.dtype]
  refine AgreeOrFail.guard _ ?_
  split
  · exact AgreeOrFail.pure h
  · exact AgreeOrFail.node _ fun _ _ hij => broadcast_interchangeable hij h

/-! ### Operators -/

/-- Operands are judged by their types and by the literals among them. -/
theorem commonType_congr (op : String) (h : a.Interchangeable b) (h' : a'.Interchangeable b') :
    commonType op a a' = commonType op b b' := by
  simp only [commonType, h.dtype, h'.dtype, h.adapts?_isSome, h'.adapts?_isSome]

theorem operandType_congr (op : Operator) (h : a.Interchangeable b) (h' : a'.Interchangeable b') :
    op.operandType a a' = op.operandType b b' := by
  cases op with
  | binary op =>
    show op.operandType a a' = op.operandType b b'
    simp only [BinaryOp.operandType, h.dtype, h'.dtype, commonType_congr op.name h h']
  | bitwise op =>
    show op.operandType a a' = op.operandType b b'
    simp only [BitwiseOp.operandType, h.dtype, h'.dtype, commonType_congr op.name h h']

/-- Over interchangeable operands an operator fails with one error or gives
interchangeable nodes. -/
theorem operator_agree (op : Operator) (h : a.Interchangeable b) (h' : a'.Interchangeable b') :
    AgreeOrFail (op.build a a') (op.build b b') := by
  rw [op.build_eq, op.build_eq, operandType_congr op h h']
  refine AgreeOrFail.check _ fun d => ?_
  refine (coerce_agree h d).lift.bind fun x y hxy => ?_
  refine (coerce_agree h' d).lift.bind fun x' y' hxy' => ?_
  exact AgreeOrFail.node _ fun _ _ hij => node_interchangeable op hij hxy hxy'

theorem unary_agree (op : UnaryOp) (h : a.Interchangeable b) :
    AgreeOrFail (do return .unary (← fresh a.dtype) op a)
      (do return .unary (← fresh b.dtype) op b) := by
  rw [h.dtype]
  exact AgreeOrFail.node _ fun _ _ hij => unary_interchangeable op hij h

theorem bitwiseNot_agree (h : a.Interchangeable b) :
    AgreeOrFail (bitwiseNot a) (bitwiseNot b) := by
  have hnode := unary_agree .bitwiseNot h
  unfold bitwiseNot
  rw [h.dtype] at hnode ⊢
  exact AgreeOrFail.guard _ hnode

theorem logicalNot_agree (h : a.Interchangeable b) :
    AgreeOrFail (logicalNot a) (logicalNot b) := by
  have hnode := unary_agree .not h
  unfold logicalNot
  rw [h.dtype] at hnode ⊢
  exact AgreeOrFail.guard _ hnode

theorem neg_agree (h : a.Interchangeable b) : AgreeOrFail (neg a) (neg b) := by
  unfold neg
  rw [h.dtype]
  refine (literal_agree (Scalar.agrees_int64 (-1)) _).lift.bind fun x y hxy => ?_
  exact operator_agree (.binary .mul) h hxy

theorem fold_agree (op : BinaryOp) {es fs : List Expr} (h : List.Forall₂ Interchangeable es fs)
    (hab : a.Interchangeable b) :
    AgreeOrFail (es.foldlM (binary op) a) (fs.foldlM (binary op) b) := by
  induction h generalizing a b with
  | nil => exact AgreeOrFail.pure hab
  | cons hef _ ih =>
    rw [List.foldlM_cons, List.foldlM_cons]
    exact (operator_agree (.binary op) hab hef).bind fun _ _ hxy => ih hxy

theorem combine_agree (name : String) (op : BinaryOp) {es fs : List Expr}
    (h : List.Forall₂ Interchangeable es fs) :
    AgreeOrFail (combine name op es) (combine name op fs) := by
  cases h with
  | nil => exact AgreeOrFail.throw _
  | cons hef htail => exact fold_agree op htail hef

/-! ### Calls -/

theorem call_agree (name : String) {es fs : List Expr} (h : List.Forall₂ Interchangeable es fs)
    (d : DType) : Agree (call name es d) (call name fs d) :=
  Agree.node d fun _ _ hij => call_interchangeable name hij h

theorem isnan_agree (h : a.Interchangeable b) : AgreeOrFail (isnan a) (isnan b) := by
  have hfloat := h.floatValue?
  have hfold (v : Bool) (m n : Note) (d : DType) :
      AgreeOrFail (do Build.journal m; constantOf (.bool v) d)
        (do Build.journal n; constantOf (.bool v) d) := by
    refine AgreeOrFail.journal m n (constantOf_agree (Scalar.agrees_self ?_) d).lift
    cases v <;> decide
  simp only [isnan, h.dtype]
  cases b.dtype.code with
  | int | uint => exact hfold false _ _ _
  | handle => exact AgreeOrFail.throw _
  | float =>
    generalize a.floatValue? = x, b.floatValue? = y at hfloat
    cases hfloat with
    | @some x y hxy =>
      obtain ⟨hx, hy, -⟩ := Binary64.numEq_iff.mp hxy
      simp only [hx, hy]
      exact hfold false _ _ _
    | none =>
      have hcall {x y : Expr} (hxy : x.Interchangeable y) :
          AgreeOrFail (call "isnan" [x] (.bool b.dtype.lanes))
            (call "isnan" [y] (.bool b.dtype.lanes)) :=
        (call_agree "isnan" (.cons hxy .nil) _).lift
      by_cases hb : b.dtype.bits < 32
      · simp only [hb, if_true]
        exact (cast_agree h _).bind fun _ _ hxy => hcall hxy
      · simp only [hb, if_false]
        exact hcall h

end Build

/-! ### All builders -/

namespace Request

variable {R S : Expr → Expr → Prop} {r r' : Request}

/-- Calls of one builder that differ in their operands only, which `R` relates
place by place. -/
inductive Parallel (R : Expr → Expr → Prop) : Request → Request → Prop
  | broadcast {a b : Expr} (h : R a b) (lanes : UInt16) :
      Parallel R (.broadcast a lanes) (.broadcast b lanes)
  | operate (op : Operator) {a b a' b' : Expr} (h : R a b) (h' : R a' b') :
      Parallel R (.operate op a a') (.operate op b b')
  | bitwiseNot {a b : Expr} (h : R a b) : Parallel R (.bitwiseNot a) (.bitwiseNot b)
  | logicalNot {a b : Expr} (h : R a b) : Parallel R (.logicalNot a) (.logicalNot b)
  | neg {a b : Expr} (h : R a b) : Parallel R (.neg a) (.neg b)
  | cast {a b : Expr} (h : R a b) (d : DType) : Parallel R (.cast a d) (.cast b d)
  | all {es fs : List Expr} (h : List.Forall₂ R es fs) : Parallel R (.all es) (.all fs)
  | any {es fs : List Expr} (h : List.Forall₂ R es fs) : Parallel R (.any es) (.any fs)
  | call (name : String) {es fs : List Expr} (h : List.Forall₂ R es fs) (d : DType) :
      Parallel R (.call name es d) (.call name fs d)
  | isnan {a b : Expr} (h : R a b) : Parallel R (.isnan a) (.isnan b)

theorem Parallel.imp (h : Parallel R r r')
    (hRS : ∀ x ∈ r.operands, ∀ y ∈ r'.operands, R x y → S x y) : Parallel S r r' := by
  have hlist {es fs : List Expr} (hes : ∀ x ∈ es, ∀ y ∈ fs, R x y → S x y)
      (hR : List.Forall₂ R es fs) : List.Forall₂ S es fs := by
    induction hR with
    | nil => exact .nil
    | cons hxy _ ih =>
      refine .cons (hes _ List.mem_cons_self _ List.mem_cons_self hxy) (ih fun x hx y hy => ?_)
      exact hes x (List.mem_cons_of_mem _ hx) y (List.mem_cons_of_mem _ hy)
  cases h with
  | broadcast h lanes => exact .broadcast (hRS _ List.mem_cons_self _ List.mem_cons_self h) lanes
  | operate op h h' =>
    refine .operate op (hRS _ List.mem_cons_self _ List.mem_cons_self h) (hRS _ ?_ _ ?_ h')
    · exact List.mem_cons_of_mem _ List.mem_cons_self
    · exact List.mem_cons_of_mem _ List.mem_cons_self
  | bitwiseNot h => exact .bitwiseNot (hRS _ List.mem_cons_self _ List.mem_cons_self h)
  | logicalNot h => exact .logicalNot (hRS _ List.mem_cons_self _ List.mem_cons_self h)
  | neg h => exact .neg (hRS _ List.mem_cons_self _ List.mem_cons_self h)
  | cast h d => exact .cast (hRS _ List.mem_cons_self _ List.mem_cons_self h) d
  | all h => exact .all (hlist hRS h)
  | any h => exact .any (hlist hRS h)
  | call name h d => exact .call name (hlist hRS h) d
  | isnan h => exact .isnan (hRS _ List.mem_cons_self _ List.mem_cons_self h)

/-- Interchangeable operands, interchangeable results. -/
theorem build_agree (h : Parallel Expr.Interchangeable r r') :
    Build.AgreeOrFail r.build r'.build := by
  cases h with
  | broadcast h lanes => exact Build.broadcast_agree h lanes
  | operate op h h' => exact Build.operator_agree op h h'
  | bitwiseNot h => exact Build.bitwiseNot_agree h
  | logicalNot h => exact Build.logicalNot_agree h
  | neg h => exact Build.neg_agree h
  | cast h d => exact Build.cast_agree h d
  | all h => exact Build.combine_agree "all" .and h
  | any h => exact Build.combine_agree "any" .or h
  | call name h d => exact (Build.call_agree name h d).lift
  | isnan h => exact Build.isnan_agree h

end Request

/-- **Building respects equality.** Two calls of one builder in a run, on operands
that are equal one by one and no NaN literals, both succeed with equal nodes or
both fail with one error, whichever operands are shared. -/
theorem build_respects_equal {w : World} (h : Reachable w) {r r' : Request}
    (hpar : r.Parallel (fun a b => a.equal b) r') (hr : ∀ x ∈ r.operands, w.Has x)
    (hr' : ∀ x ∈ r'.operands, w.Has x) (hn : ∀ x ∈ r.operands, x.isNaNLiteral = false)
    (s t : Session) :
    (∃ x y, (r.build.run.run s).1 = .ok x ∧ (r'.build.run.run t).1 = .ok y ∧ x.equal y) ∨
      ∃ err, (r.build.run.run s).1 = .error err ∧ (r'.build.run.run t).1 = .error err := by
  obtain ⟨P, hP, hexprs, -⟩ := h.sound
  have hagree : Build.AgreeOrFail r.build r'.build := by
    refine Request.build_agree (hpar.imp fun x hx y hy hxy => ?_)
    refine Expr.interchangeable_of_equal (fun hs => ?_) (hn x hx) hxy
    exact hP.coherent x (World.Sound.has hP hexprs (hr x hx)) y
      (World.Sound.has hP hexprs (hr' y hy)) (of_decide_eq_true hs)
  have hout := hagree s t
  generalize (r.build.run.run s).1 = out, (r'.build.run.run t).1 = out' at hout
  cases hout with
  | ok hxy => exact .inl ⟨_, _, rfl, rfl, hxy.equal⟩
  | error err => exact .inr ⟨err, rfl, rfl⟩

namespace World

/-- The number 3 as the node `i`. -/
def threeAt (i : Nat) : Expr := .intImm ⟨i, .int 32⟩ 3

/-- A run that makes one number twice. -/
def threes : World :=
  (({} : World).perform (.constant (.int32 3))).perform (.constant (.int32 3))

theorem reachable_threes : Reachable threes :=
  (Reachable.start.perform (.constant (.int32 3)) (List.forall_mem_nil _)
    (List.forall_mem_nil _)).perform (.constant (.int32 3)) (List.forall_mem_nil _)
    (List.forall_mem_nil _)

end World

/-- The sum of a number and itself is equal to that of two numbers that are equal. -/
theorem threes_respect_equal : Reachable World.threes ∧
    World.threes.exprs = [World.threeAt 1, World.threeAt 0] ∧ ∀ s t,
    let shared := Request.operate (.binary .add) (World.threeAt 0) (World.threeAt 0)
    let unshared := Request.operate (.binary .add) (World.threeAt 0) (World.threeAt 1)
    (∃ x y, (shared.build.run.run s).1 = .ok x ∧ (unshared.build.run.run t).1 = .ok y ∧
      x.equal y) ∨
      ∃ err, (shared.build.run.run s).1 = .error err ∧
        (unshared.build.run.run t).1 = .error err := by
  have h0 : World.threes.Has (World.threeAt 0) := ⟨_, .tail _ (.head _), .root⟩
  have h1 : World.threes.Has (World.threeAt 1) := ⟨_, .head _, .root⟩
  refine ⟨World.reachable_threes, rfl, fun s t => ?_⟩
  refine build_respects_equal World.reachable_threes
    (.operate _ (Expr.equal_self _) (by simp [World.threeAt, Expr.equal])) ?_ ?_ ?_ s t
  · exact List.forall_mem_cons.mpr ⟨h0, List.forall_mem_singleton.mpr h0⟩
  · exact List.forall_mem_cons.mpr ⟨h0, List.forall_mem_singleton.mpr h1⟩
  · exact List.forall_mem_cons.mpr ⟨rfl, List.forall_mem_singleton.mpr rfl⟩

end Lanewise
