/-
# Equality is an equivalence

Equality mixes identity with the comparison of numbers, in which NaN is not
equal to itself. On the nodes of a run it is reflexive, symmetric and transitive
all the same: a number names one node of the run, so a step by identity changes
nothing, and every other step goes node by node, from the operands up. The
equality of statements has no such shortcut; it compares their outlines and,
place by place, their expressions, which are nodes of the run.

Key definitions: `Stmt.outline`, `Stmt.expressions`.
Key theorems: `Expr.equal_comm`, `Expr.equal_trans`, `Stmt.equal_eq`,
`Reachable.has_of_mem_expressions`, `equal_equivalence`.
-/
import Lanewise.Stmt.Equality
import Lanewise.Proofs.Equality
import Lanewise.Proofs.Reachable

namespace Lanewise

/-! ### Numbers -/

namespace Binary64

theorem numEq_iff {x y : Binary64} : x.numEq y = true ↔
    x.isNaN = false ∧ y.isNaN = false ∧ (x = y ∨ x.isZero ∧ y.isZero) := by
  have hbits : x.bits = y.bits ↔ x = y := ⟨fun h => congrArg Binary64.mk h, fun h => h ▸ rfl⟩
  simp [numEq, hbits, and_assoc]

theorem numEq_trans {x y z : Binary64} (hxy : x.numEq y) (hyz : y.numEq z) : x.numEq z := by
  obtain ⟨hx, hy, hxy⟩ := numEq_iff.mp hxy
  obtain ⟨-, hz, hyz⟩ := numEq_iff.mp hyz
  refine numEq_iff.mpr ⟨hx, hz, ?_⟩
  rcases hxy with rfl | ⟨hx0, hy0⟩
  · exact hyz
  · rcases hyz with rfl | ⟨-, hz0⟩
    · exact .inr ⟨hx0, hy0⟩
    · exact .inr ⟨hx0, hz0⟩

end Binary64

/-! ### Expressions -/

namespace Expr

variable {a b c : Expr}

theorem sameNode_comm (a b : Expr) : a.sameNode b = b.sameNode a := by
  simp [sameNode, eq_comm]

theorem alike_comm (a b : Expr) : a.alike b = b.alike a := by
  by_cases hform : a.form = b.form
  · cases a, b, hform using form_cases <;>
      simp [alike, eq_comm, Binary64.numEq_comm]
  · have hab : a.alike b = false := Bool.eq_false_iff.mpr fun h => hform (form_eq_of_alike h)
    have hba : b.alike a = false := Bool.eq_false_iff.mpr fun h => hform (form_eq_of_alike h).symm
    rw [hab, hba]

theorem alike_trans (hab : a.alike b) (hbc : b.alike c) : a.alike c := by
  have hform := form_eq_of_alike hab
  cases a, b, hform using form_cases with
  | floatImm i x j y =>
    cases c with
    | floatImm k z =>
      simp only [alike, Bool.and_eq_true, decide_eq_true_eq] at hab hbc ⊢
      exact ⟨hab.1.trans hbc.1, Binary64.numEq_trans hab.2 hbc.2⟩
    | _ => simp [alike] at hbc
  | _ => cases c <;> simp_all [alike]

theorem sameNode_or_alike (h : a.equal b) : a.sameNode b ∨ a.alike b := by
  rw [equal_eq, Bool.or_eq_true, Bool.and_eq_true] at h
  exact h.imp_right And.left

theorem not_alike_of_isVar (h : a.isVar ∨ b.isVar) : ¬ a.alike b := by
  intro halike
  have hform := form_eq_of_alike halike
  cases a, b, hform using form_cases <;> simp_all [isVar, alike]

/-! Lists of operands, when the fact is known of the operands. -/

theorem equalAll_comm {xs ys : List Expr} (h : ∀ x ∈ xs, ∀ y, x.equal y = y.equal x) :
    equalAll xs ys = equalAll ys xs := by
  induction xs generalizing ys with
  | nil => cases ys <;> rfl
  | cons x xs ih =>
    cases ys with
    | nil => rfl
    | cons y ys =>
      have htail : equalAll xs ys = equalAll ys xs :=
        ih fun z hz => h z (List.mem_cons_of_mem _ hz)
      rw [equalAll, equalAll, h x List.mem_cons_self y, htail]

theorem equalAll_trans {xs ys zs : List Expr}
    (h : ∀ x ∈ xs, ∀ y ∈ ys, ∀ z ∈ zs, x.equal y → y.equal z → x.equal z)
    (hxy : equalAll xs ys) (hyz : equalAll ys zs) : equalAll xs zs := by
  induction xs generalizing ys zs with
  | nil =>
    cases ys with
    | nil => exact hyz
    | cons y ys => simp [equalAll] at hxy
  | cons x xs ih =>
    cases ys with
    | nil => simp [equalAll] at hxy
    | cons y ys =>
      cases zs with
      | nil => simp [equalAll] at hyz
      | cons z zs =>
        simp only [equalAll, Bool.and_eq_true] at hxy hyz ⊢
        refine ⟨h x List.mem_cons_self y List.mem_cons_self z List.mem_cons_self hxy.1 hyz.1,
          ih (fun x hx y hy z hz => ?_) hxy.2 hyz.2⟩
        exact h x (List.mem_cons_of_mem _ hx) y (List.mem_cons_of_mem _ hy) z
          (List.mem_cons_of_mem _ hz)

theorem equalAll_self (xs : List Expr) : equalAll xs xs := by
  induction xs with
  | nil => rfl
  | cons x xs ih => rw [equalAll, equal_self x, ih]; rfl

theorem equal_comm (a b : Expr) : a.equal b = b.equal a := by
  induction a using operand_induction generalizing b with
  | step a ih => rw [equal_eq, equal_eq, sameNode_comm, alike_comm, equalAll_comm ih]

/-- Equality goes on, where a number names one node. -/
theorem equal_trans {s : Session} {P : Set Expr} (hP : Inventory s P) (ha : a ∈ P) (hb : b ∈ P)
    (hc : c ∈ P) (hab : a.equal b) (hbc : b.equal c) : a.equal c := by
  induction a using operand_induction generalizing b c with
  | step a ih =>
    have hab' := hab
    have hbc' := hbc
    rw [equal_eq, Bool.or_eq_true, Bool.and_eq_true] at hab' hbc'
    rcases hab' with hs | ⟨hab', hops⟩
    · rw [hP.coherent a ha b hb (of_decide_eq_true hs)]
      exact hbc
    · rcases hbc' with hs | ⟨hbc', hops'⟩
      · rw [← hP.coherent b hb c hc (of_decide_eq_true hs)]
        exact hab
      · refine equal_of_alike (alike_trans hab' hbc') (equalAll_trans ?_ hops hops')
        intro x hx y hy z hz
        exact ih x hx (hP.operands a ha x hx) (hP.operands b hb y hy) (hP.operands c hc z hz)

end Expr

/-! ### Statements -/

namespace Stmt

/-- What one statement of a chain is, beside its expressions. -/
inductive Line where
  | evaluate
  | letIn
  | annotate (key : String)
  | store
  | loop (kind : ForKind) (device : Int32)
deriving DecidableEq

/-- The chain without its expressions. -/
def outline : Stmt → List Line
  | evaluate .. => [.evaluate]
  | letIn _ _ _ s => .letIn :: s.outline
  | annotate _ _ k _ s => .annotate k :: s.outline
  | store .. => [.store]
  | loop _ _ _ _ k d s => .loop k d :: s.outline

/-- The expressions of the chain, from the outside in. -/
def expressions : Stmt → List Expr
  | evaluate _ e => [e]
  | letIn _ x e s => x :: e :: s.expressions
  | annotate _ x _ e s => x :: e :: s.expressions
  | store _ x e i => [x, e, i]
  | loop _ x a n _ _ s => x :: a :: n :: s.expressions

theorem equal_eq (s t : Stmt) :
    s.equal t = (s.outline = t.outline && Expr.equalAll s.expressions t.expressions) := by
  induction s generalizing t <;> cases t <;>
    simp_all [equal, outline, expressions, Expr.equalAll, Bool.and_assoc, Bool.and_left_comm]

theorem equal_self (s : Stmt) : s.equal s := by
  rw [equal_eq, Expr.equalAll_self, Bool.and_true]
  exact decide_eq_true rfl

theorem equal_comm (s t : Stmt) : s.equal t = t.equal s := by
  rw [equal_eq, equal_eq, Expr.equalAll_comm fun x _ y => Expr.equal_comm x y]
  simp only [eq_comm]

theorem equal_trans {session : Session} {P : Set Expr} (hP : Inventory session P) {s t u : Stmt}
    (hs : ∀ x ∈ s.expressions, x ∈ P) (ht : ∀ x ∈ t.expressions, x ∈ P)
    (hu : ∀ x ∈ u.expressions, x ∈ P) (hst : s.equal t) (htu : t.equal u) : s.equal u := by
  rw [equal_eq, Bool.and_eq_true, decide_eq_true_eq] at hst htu ⊢
  refine ⟨hst.1.trans htu.1, Expr.equalAll_trans (fun x hx y hy z hz => ?_) hst.2 htu.2⟩
  exact Expr.equal_trans hP (hs x hx) (ht y hy) (hu z hz)

end Stmt

/-- A built statement is made of what the call is given. -/
theorem StmtRequest.expressions_of_build {r : StmtRequest} {s s' : Session} {t : Stmt}
    (h : r.build.run.run s = (.ok t, s')) {x : Expr} (hx : x ∈ t.expressions) :
    x ∈ r.operands ∨ ∃ u ∈ r.bodies, x ∈ u.expressions := by
  cases r with
  | evaluate e =>
    cases h
    exact .inl hx
  | annotate y k e body =>
    cases h
    simpa [operands, bodies, Stmt.expressions, or_assoc] using hx
  | letIn y e body =>
    rcases run_needVar "LetStmt" "var" y (.letIn · y e body) s with hrun | ⟨-, hrun⟩
    · cases hrun.symm.trans h
    · cases hrun.symm.trans h
      simpa [operands, bodies, Stmt.expressions, or_assoc] using hx
  | store y e i =>
    rcases run_needVar "Store" "buffer_var" y (.store · y e i) s with hrun | ⟨-, hrun⟩
    · cases hrun.symm.trans h
    · cases hrun.symm.trans h
      exact .inl hx
  | loop y a n kind device body =>
    rcases run_needVar "For" "loop_var" y (.loop · y a n kind device body) s with
      hrun | ⟨-, hrun⟩
    · cases hrun.symm.trans h
    · cases hrun.symm.trans h
      simpa [operands, bodies, Stmt.expressions, or_assoc] using hx

/-! ### Runs -/

namespace World

theorem has_perform {w : World} (r : Request) {x : Expr} (h : w.Has x) : (w.perform r).Has x := by
  obtain ⟨e, he, hx⟩ := h
  unfold perform
  split
  · exact ⟨e, List.mem_cons_of_mem _ he, hx⟩
  · exact ⟨e, he, hx⟩

theorem stmts_perform (w : World) (r : Request) : (w.perform r).stmts = w.stmts := by
  unfold perform
  split <;> rfl

theorem exprs_performStmt (w : World) (r : StmtRequest) :
    (w.performStmt r).exprs = w.exprs := by
  unfold performStmt
  split <;> rfl

/-- A call adds the statement that it builds, and no other. -/
theorem mem_stmts_performStmt {w : World} {r : StmtRequest} {t : Stmt}
    (h : t ∈ (w.performStmt r).stmts) :
    t ∈ w.stmts ∨ ∃ s, r.build.run.run w.session = (.ok t, s) := by
  unfold performStmt at h
  split at h
  · rename_i u s hrun
    rcases List.mem_cons.mp h with rfl | h
    · exact .inr ⟨s, hrun⟩
    · exact .inl h
  · exact .inl h

end World

/-- The expressions of a run's statements are nodes of the run. -/
theorem Reachable.has_of_mem_expressions {w : World} (h : Reachable w) {t : Stmt}
    (ht : t ∈ w.stmts) {x : Expr} (hx : x ∈ t.expressions) : w.Has x := by
  induction h generalizing t with
  | start => exact (List.not_mem_nil ht).elim
  | perform _ r _ _ ih =>
    rw [World.stmts_perform] at ht
    exact World.has_perform r (ih ht hx)
  | @performStmt w _ r hops hbodies ih =>
    have hw : w.Has x := by
      rcases World.mem_stmts_performStmt ht with ht | ⟨s, hrun⟩
      · exact ih ht hx
      · rcases r.expressions_of_build hrun hx with hx | ⟨u, hu, hx⟩
        · exact hops x hx
        · exact ih (hbodies u hu) hx
    simpa [World.Has, World.exprs_performStmt] using hw

/-- **Equality is an equivalence.** It is one on the expressions of a run and
on its statements. It holds of a node and itself, for variables only then, and
equal expressions have one type and one form. -/
theorem equal_equivalence {w : World} (h : Reachable w) :
    (Equivalence fun a b : {e // w.Has e} => a.1.equal b.1 = true) ∧
    (∀ a b, w.Has a → w.Has b → (a.sameNode b → a.equal b) ∧
      (a.isVar ∨ b.isVar → a.equal b → a = b) ∧
      (a.equal b → a.dtype = b.dtype ∧ a.form = b.form)) ∧
    Equivalence fun s t : {t // t ∈ w.stmts} => s.1.equal t.1 = true := by
  obtain ⟨P, hP, hexprs, -⟩ := h.sound
  have hmem : ∀ {x}, w.Has x → x ∈ P := World.Sound.has hP hexprs
  have hstmt : ∀ t ∈ w.stmts, ∀ x ∈ t.expressions, x ∈ P := fun t ht x hx =>
    hmem (h.has_of_mem_expressions ht hx)
  refine ⟨⟨fun a => Expr.equal_self a.1, fun {a b} hab => ?_, fun {a b c} hab hbc => ?_⟩,
    fun a b ha hb => ?_, fun s => Stmt.equal_self s.1, fun {s t} hst => ?_,
    fun {s t u} hst htu => ?_⟩
  · rwa [Expr.equal_comm]
  · exact Expr.equal_trans hP (hmem a.2) (hmem b.2) (hmem c.2) hab hbc
  · have hco : a.sameNode b → a = b := fun hs =>
      hP.coherent a (hmem ha) b (hmem hb) (of_decide_eq_true hs)
    refine ⟨Expr.equal_of_sameNode, fun hvar hab => ?_, fun hab =>
      ⟨Expr.dtype_eq_of_equal hco hab, ?_⟩⟩
    · rcases Expr.sameNode_or_alike hab with hs | halike
      · exact hco hs
      · exact absurd halike (Expr.not_alike_of_isVar hvar)
    · rcases Expr.sameNode_or_alike hab with hs | halike
      · rw [hco hs]
      · exact Expr.form_eq_of_alike halike
  · rwa [Stmt.equal_comm]
  · exact Stmt.equal_trans hP (hstmt _ s.2) (hstmt _ t.2) (hstmt _ u.2) hst htu

namespace World

/-- A NaN. -/
def nan : Expr := .floatImm ⟨0, .float 64⟩ ⟨0x7ff8000000000000⟩

/-- A run that evaluates one NaN twice. -/
def nans : World :=
  (({} : World).perform (.constant (.float64 ⟨0x7ff8000000000000⟩))).performStmt (.evaluate nan)
    |>.performStmt (.evaluate nan)

theorem nans_has_nan : nans.Has nan := ⟨_, .head _, .root⟩

theorem reachable_nans : Reachable nans := by
  have h1 := Reachable.start.perform (.constant (.float64 ⟨0x7ff8000000000000⟩))
    (List.forall_mem_nil _) (List.forall_mem_nil _)
  have h2 := h1.performStmt (.evaluate nan)
    (List.forall_mem_singleton.mpr ⟨_, .head _, .root⟩) (List.forall_mem_nil _)
  exact h2.performStmt (.evaluate nan)
    (List.forall_mem_singleton.mpr ⟨_, .head _, .root⟩) (List.forall_mem_nil _)

end World

/-- NaN is equal to itself as a node, and so are the statements that evaluate it. -/
theorem nans_equivalence : Reachable World.nans ∧ World.nans.Has World.nan ∧
    World.nans.stmts = [.evaluate 2 World.nan, .evaluate 1 World.nan] ∧
    (Equivalence fun a b : {e // World.nans.Has e} => a.1.equal b.1 = true) ∧
    (∀ a b, World.nans.Has a → World.nans.Has b → (a.sameNode b → a.equal b) ∧
      (a.isVar ∨ b.isVar → a.equal b → a = b) ∧
      (a.equal b → a.dtype = b.dtype ∧ a.form = b.form)) ∧
    Equivalence fun s t : {t // t ∈ World.nans.stmts} => s.1.equal t.1 = true :=
  ⟨World.reachable_nans, World.nans_has_nan, rfl, equal_equivalence World.reachable_nans⟩

end Lanewise
