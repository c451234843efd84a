/-
# What errors show

An error shows types: those of the operands, or the one that was asked for. On
nodes of an inventory and for valid types they are all valid, with one
exception: a broadcast that is refused shows the type it would have made, which
need not be one. `FailsWith` says of a builder which errors it can end in; its
rules go with those of `Tries`, as the second of two builds works on an inventory
that the first one has extended.

Key definitions: `BuildError.types`, `BuildError.TypesValid`, `Build.FailsWith`,
`Operator.Refuses`.
Key theorems: `Build.FailsWith.bind`, `Operator.refuses_of_operandType`, `Request.failsWith`,
`Build.broadcast_overreach`.
-/
import Lanewise.Proofs.Judgement
import Lanewise.Proofs.NaNTest

namespace Lanewise

namespace BuildError

/-- The types that the error shows. -/
def types : BuildError → List DType
  | dtypeMismatch _ s t => [s, t]
  | bitwiseOperand _ d | complementOperand d | logicalOperand _ d | intrinsicOperand _ d => [d]
  | ambiguousTruth _ | noConditions _ | unknownField .. | notVariable .. | unsupportedType ..
  | unreadableType _ => []

/-- The error shows no types but valid ones. -/
def TypesValid (err : BuildError) : Prop := ∀ d ∈ err.types, d.Valid

end BuildError

namespace Build

/-- On an inventory `P`, an error in which the build `f` ends has the property `post`. -/
def FailsWith (P : Set Expr) (f : BuildM Expr) (post : BuildError → Prop) : Prop :=
  ∀ s, Inventory s P → ∀ err, (f.run.run s).1 = .error err → post err

variable {P : Set Expr} {post : BuildError → Prop} {a b e : Expr} {d : DType}

/-! ### Rules -/

theorem FailsWith.lift (f : NodeM Expr) : FailsWith P (liftM f) post :=
  fun _ _ _ h => by cases h

theorem FailsWith.pure (e : Expr) : FailsWith P (Pure.pure e) post :=
  fun _ _ _ h => by cases h

theorem FailsWith.throw {err : BuildError} (h : post err) :
    FailsWith P (MonadExcept.throw err) post := by
  intro s _ err' herr
  rw [← Except.error.inj herr]
  exact h

theorem FailsWith.guard {c : Prop} [Decidable c] {err : BuildError} {f : BuildM Expr}
    (he : c → post err) (hf : ¬ c → FailsWith P f post) :
    FailsWith P (if c then MonadExcept.throw err else f) post := by
  by_cases h : c
  · rw [if_pos h]
    exact FailsWith.throw (he h)
  · rw [if_neg h]
    exact hf h

theorem FailsWith.journal (n : Note) {f : BuildM Expr} (hf : FailsWith P f post) :
    FailsWith P (do Build.journal n; f) post :=
  fun s hs => hf { s with notes := s.notes ++ [n] } (hs.later (Nat.le_refl _))

/-- The error is that of the first build, or that of the second one, which works
on what the first one leaves. -/
theorem FailsWith.bind {f : BuildM Expr} {g : Expr → BuildM Expr} {post' : Expr → Prop}
    (hf : FailsWith P f post) (ht : Tries P f post')
    (hg : ∀ Q e, P ⊆ Q → e ∈ Q → FailsWith Q (g e) post) : FailsWith P (f >>= g) post := by
  intro s hs err herr
  obtain ⟨Q, hPQ, hQ, hok⟩ := ht s hs
  cases h : f.run.run s with
  | mk result s' =>
    rw [h] at hQ hok
    cases result with
    | error err' =>
      rw [run_bind_error h] at herr
      rw [← Except.error.inj herr]
      exact hf s hs err' (congrArg Prod.fst h)
    | ok e =>
      rw [run_bind_ok h] at herr
      exact hg Q e hPQ (hok e rfl).1 s' hQ err herr

/-- A build that goes through from every session has no error. -/
theorem FailsWith.of_yields {f : BuildM Expr} (h : ∀ s, ∃ x s', Yields f s x s') :
    FailsWith P f post := by
  intro s _ err herr
  obtain ⟨x, s', hrun⟩ := h s
  cases (congrArg Prod.fst hrun).symm.trans herr

end Build

/-! ### Operators -/

theorem DType.eq_of_promote_error {op : String} {s t : DType} {err : BuildError}
    (h : promote op s t = .error err) : err = .dtypeMismatch op s t := by
  unfold promote at h
  grind

theorem Build.eq_of_commonType_error {op : String} {a b : Expr} {err : BuildError}
    (h : commonType op a b = .error err) : err = .dtypeMismatch op a.dtype b.dtype := by
  unfold commonType at h
  grind [DType.eq_of_promote_error]

/-- `d` is the type of the first of two operands, of the types `s` and `t`, that is not
as `rule` asks. -/
def DType.FirstBreaking (rule : DType → Bool) (s t d : DType) : Prop :=
  rule s = false ∧ d = s ∨ rule s = true ∧ rule t = false ∧ d = t

namespace Operator

/-- The errors with which an operator refuses operands of the types `s` and `t`: one for
each of its own rules, and that of operands that are not brought together. -/
inductive Refuses (s t : DType) : Operator → BuildError → Prop
  | handle (f : BinaryOp) (hc : f.isComparison = false) (hh : s.isHandle ∨ t.isHandle) :
      Refuses s t (.binary f) (.dtypeMismatch f.name s (if s.isHandle then s else t))
  | logical (f : BinaryOp) {d : DType} (hd : DType.FirstBreaking DType.isBool s t d) :
      Refuses s t (.binary f) (.logicalOperand f.name d)
  | bitwise (f : BitwiseOp) {d : DType} (hd : DType.FirstBreaking DType.isIntegral s t d) :
      Refuses s t (.bitwise f) (.bitwiseOperand f.name d)
  | mismatch (op : Operator) : Refuses s t op (.dtypeMismatch op.name s t)

variable {op : Operator} {s t : DType} {a b : Expr} {err : BuildError}

theorem refuses_of_check {f : BinaryOp} (h : f.check s t = .error err) :
    (binary f).Refuses s t err := by
  unfold BinaryOp.check at h
  split at h
  · next hcond =>
    have hcond : f.isComparison = false ∧ (s.isHandle ∨ t.isHandle) := by simpa using hcond
    rw [← Except.error.inj h]
    exact .handle f hcond.1 hcond.2
  · split at h
    · next hleft =>
      have hs : s.isBool = false := by simpa using (Bool.and_eq_true_iff.mp hleft).2
      rw [← Except.error.inj h]
      exact .logical f (.inl ⟨hs, rfl⟩)
    · next hleft =>
      split at h
      · next hright =>
        obtain ⟨hl, ht⟩ : f.isLogical = true ∧ t.isBool = false := by simpa using hright
        have hs : s.isBool = true := by simpa [hl] using hleft
        rw [← Except.error.inj h]
        exact .logical f (.inr ⟨hs, ht, rfl⟩)
      · cases h

theorem refuses_of_commonType (h : Build.commonType op.name a b = .error err) :
    op.Refuses a.dtype b.dtype err := by
  rw [Build.eq_of_commonType_error h]
  exact .mismatch op

/-- The ways in which operands are refused. -/
theorem refuses_of_operandType (h : op.operandType a b = .error err) :
    op.Refuses a.dtype b.dtype err := by
  cases op with
  | binary f =>
    have h' : f.check a.dtype b.dtype >>= (fun _ => Build.commonType f.name a b) = .error err := h
    cases hcheck : f.check a.dtype b.dtype with
    | ok u =>
      rw [hcheck] at h'
      exact refuses_of_commonType h'
    | error err' =>
      rw [hcheck] at h'
      rw [← Except.error.inj h']
      exact refuses_of_check hcheck
  | bitwise f =>
    have h' : BitwiseOp.operandType f a b = .error err := h
    unfold BitwiseOp.operandType at h'
    split at h'
    · next hleft =>
      rw [← Except.error.inj h']
      exact .bitwise f (.inl ⟨by simpa using hleft, rfl⟩)
    · next hleft =>
      split at h'
      · next hright =>
        rw [← Except.error.inj h']
        exact .bitwise f (.inr ⟨by simpa using hleft, by simpa using hright, rfl⟩)
      · exact refuses_of_commonType h'

/-- An operator that refuses its operands shows their types. -/
theorem types_of_operandType (h : op.operandType a b = .error err) :
    ∀ d ∈ err.types, d = a.dtype ∨ d = b.dtype := by
  cases refuses_of_operandType h with
  | handle f =>
    cases a.dtype.isHandle <;> simp [BuildError.types]
  | logical f hd | bitwise f hd =>
    intro d hmem
    rw [List.mem_singleton.mp hmem]
    exact hd.imp And.right fun hd => hd.2.2
  | mismatch => simp [BuildError.types]

end Operator

namespace Build

variable {P : Set Expr} {a b e : Expr} {d : DType}

theorem operator_failsWith (op : Operator) (ha : a ∈ P) (hb : b ∈ P) :
    FailsWith P (op.build a b) BuildError.TypesValid := by
  intro s hs err herr d hd
  have hop := Operator.operandType_of_build_error herr
  rcases Operator.types_of_operandType hop d hd with rfl | rfl
  · exact (hs.typed a ha).valid
  · exact (hs.typed b hb).valid

/-! ### The other builders -/

/-- An error that shows the type of a node. -/
theorem typesValid_of_node {s : Session} (hs : Inventory s P) (he : e ∈ P) {err : BuildError}
    (h : ∀ d ∈ err.types, d = e.dtype) : err.TypesValid := by
  intro d hd
  rw [h d hd]
  exact (hs.typed e he).valid

/-- A node over `e` that is refused for the type of `e`. -/
theorem unary_failsWith {c : Prop} [Decidable c] {err : BuildError} {mk : NodeInfo → Expr}
    (he : e ∈ P) (h : ∀ d ∈ err.types, d = e.dtype) :
    FailsWith P (if c then MonadExcept.throw err else do return mk (← fresh e.dtype))
      BuildError.TypesValid := by
  intro s hs
  refine FailsWith.guard (fun _ => typesValid_of_node hs he h) (fun _ => ?_) s hs
  exact FailsWith.of_yields fun _ => ⟨_, _, rfl⟩

theorem bitwiseNot_failsWith (he : e ∈ P) :
    FailsWith P (bitwiseNot e) BuildError.TypesValid :=
  unary_failsWith he fun _ => List.mem_singleton.mp

theorem logicalNot_failsWith (he : e ∈ P) :
    FailsWith P (logicalNot e) BuildError.TypesValid :=
  unary_failsWith he fun _ => List.mem_singleton.mp

theorem neg_failsWith (he : e ∈ P) : FailsWith P (neg e) BuildError.TypesValid := by
  intro s hs
  have hd : e.dtype.element.Valid := (hs.typed e he).valid.element
  refine (FailsWith.lift _).bind (literal_makes hd rfl _).tries (fun Q x hPQ hx => ?_) s hs
  exact operator_failsWith (.binary .mul) (hPQ he) hx

theorem fold_failsWith (op : BinaryOp) : ∀ (es : List Expr) {P : Set Expr} {a : Expr}, a ∈ P →
    (∀ e ∈ es, e ∈ P) → FailsWith P (es.foldlM (binary op) a) BuildError.TypesValid
  | [], _, _, _, _ => FailsWith.pure _
  | e :: es, P, a, ha, hes => by
    rw [List.foldlM_cons]
    have he : e ∈ P := hes e List.mem_cons_self
    refine (operator_failsWith (.binary op) ha he).bind
      ((Operator.binary op).build_tries ha he) fun Q x hPQ hx => ?_
    exact fold_failsWith op es hx fun y hy => hPQ (hes y (List.mem_cons_of_mem _ hy))

theorem combine_failsWith (name : String) (op : BinaryOp) {es : List Expr} (hes : ∀ e ∈ es, e ∈ P) :
    FailsWith P (combine name op es) BuildError.TypesValid := by
  cases es with
  | nil => exact FailsWith.throw (by simp [BuildError.TypesValid, BuildError.types])
  | cons e es =>
    exact fold_failsWith op es (hes e List.mem_cons_self) fun y hy =>
      hes y (List.mem_cons_of_mem _ hy)

theorem cast_failsWith (he : e ∈ P) (hd : d.Valid) :
    FailsWith P (cast e d) BuildError.TypesValid := by
  intro s hs err herr
  have hte : e.dtype.Valid := (hs.typed e he).valid
  by_cases hf : e.Fits d
  · obtain ⟨x, s', hrun, -⟩ := exists_cast hf s
    cases (congrArg Prod.fst hrun).symm.trans herr
  · rw [run_cast_error hte hf] at herr
    rw [← Except.error.inj herr]
    simp [BuildError.TypesValid, BuildError.types, hte, hd]

theorem isnan_failsWith (he : e ∈ P) : FailsWith P (isnan e) BuildError.TypesValid := by
  intro s hs err herr
  cases hh : e.dtype.isHandle with
  | true =>
    rw [run_isnan_of_isHandle hh] at herr
    rw [← Except.error.inj herr]
    exact typesValid_of_node hs he fun _ => List.mem_singleton.mp
  | false =>
    obtain ⟨r, s', hrun, -⟩ := exists_isnan (hs.typed e he) hh s
    cases (congrArg Prod.fst hrun).symm.trans herr

/-! ### Broadcasts -/

end Build

theorem DType.withLanes_valid_iff {d : DType} (hd : d.Valid) (n : UInt16) :
    (d.withLanes n).Valid ↔ ¬ (n = 0 ∨ d.isHandle ∧ n ≠ 1) := by
  constructor
  · rintro h (h0 | ⟨hh, h1⟩)
    · exact h.lanes_ne_zero h0
    · have hcode : d.code = .handle := isHandle_iff.mp hh
      exact h1 (h.2.2 hcode)
  · intro h
    have hn : n ≠ 0 := fun h0 => h (.inl h0)
    cases hh : d.isHandle with
    | false => exact hd.withLanes hh hn
    | true =>
      have h1 : n = 1 := by
        by_contra h1
        exact h (.inr ⟨hh, h1⟩)
      rw [h1]
      exact hd.element

namespace Build

variable {P : Set Expr} {e : Expr}

theorem broadcast_failsWith (n : UInt16) :
    FailsWith P (broadcast e n) (· = .dtypeMismatch "broadcast" e.dtype (e.dtype.withLanes n)) := by
  refine FailsWith.guard (fun _ => rfl) fun _ => ?_
  split
  · exact FailsWith.pure _
  · exact FailsWith.of_yields fun _ => ⟨_, _, rfl⟩

/-- A broadcast to lanes that the type cannot have shows a type that is none. -/
theorem broadcast_overreach (s : Session) {n : UInt16} (h : n = 0 ∨ e.dtype.isHandle ∧ n ≠ 1) :
    ((broadcast e n).run.run s).1 =
      .error (.dtypeMismatch "broadcast" e.dtype (e.dtype.withLanes n)) := by
  have hrefused : (!e.dtype.isScalar || e.dtype.isHandle || decide (n = 0)) = true := by
    rcases h with h | h <;> simp [h]
  unfold broadcast
  rw [if_pos hrefused]
  rfl

end Build

/-- The errors of all builders but `broadcast`. -/
theorem Request.failsWith {P : Set Expr} (r : Request) (hops : ∀ x ∈ r.operands, x ∈ P)
    (htypes : ∀ d ∈ r.types, d.Valid) (hr : ∀ x n, r ≠ .broadcast x n) :
    Build.FailsWith P r.build BuildError.TypesValid := by
  cases r with
  | constant | constantOf | var | varOf | stringImm | call => exact Build.FailsWith.lift _
  | broadcast x n => exact absurd rfl (hr x n)
  | operate op a b =>
    exact Build.operator_failsWith op (hops a List.mem_cons_self)
      (hops b (List.mem_cons_of_mem _ List.mem_cons_self))
  | bitwiseNot x => exact Build.bitwiseNot_failsWith (hops x List.mem_cons_self)
  | logicalNot x => exact Build.logicalNot_failsWith (hops x List.mem_cons_self)
  | neg x => exact Build.neg_failsWith (hops x List.mem_cons_self)
  | cast x d =>
    exact Build.cast_failsWith (hops x List.mem_cons_self) (htypes d List.mem_cons_self)
  | all es => exact Build.combine_failsWith "all" .and hops
  | any es => exact Build.combine_failsWith "any" .or hops
  | isnan x => exact Build.isnan_failsWith (hops x List.mem_cons_self)

end Lanewise
