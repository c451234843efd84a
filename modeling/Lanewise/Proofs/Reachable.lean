/-
# Every run builds well-typed nodes

A run calls the builders one after the other, each on what is there: nodes of
earlier results, earlier statements and valid types. `World.perform` is one
call, which may fail, and a world is reachable when calls lead to it from the
empty one. All nodes of a reachable world are nodes of one inventory
(`World.Sound`): one call keeps that (`sound_perform`, `sound_performStmt`),
hence every run does, and so every node that exists is typed.

Key definitions: `Request`, `StmtRequest`, `World`, `World.perform`, `Reachable`.
Key theorems: `Reachable.sound`, `reachable_wellTyped`.
-/
import Lanewise.Proofs.Builders

namespace Lanewise

/-! ### Calls -/

/-- A call of a builder of expressions. -/
inductive Request where
  | constant (v : Scalar)
  | constantOf (v : Scalar) (d : DType)
  | var (name : String)
  | varOf (name : String) (d : DType)
  | stringImm (s : String)
  | broadcast (x : Expr) (lanes : UInt16)
  | operate (op : Operator) (a b : Expr)
  | bitwiseNot (x : Expr)
  | logicalNot (x : Expr)
  | neg (x : Expr)
  | cast (x : Expr) (d : DType)
  | all (es : List Expr)
  | any (es : List Expr)
  | call (name : String) (args : List Expr) (d : DType)
  | isnan (x : Expr)

namespace Request

/-- The builder that is called. -/
def build : Request → BuildM Expr
  | constant v => Build.constant v
  | constantOf v d => Build.constantOf v d
  | var name => Build.var name
  | varOf name d => Build.varOf name d
  | stringImm s => Build.stringImm s
  | broadcast x lanes => Build.broadcast x lanes
  | operate op a b => op.build a b
  | bitwiseNot x => Build.bitwiseNot x
  | logicalNot x => Build.logicalNot x
  | neg x => Build.neg x
  | cast x d => Build.cast x d
  | all es => Build.all es
  | any es => Build.any es
  | call name args d => Build.call name args d
  | isnan x => Build.isnan x

/-- The expressions that the call is given. -/
def operands : Request → List Expr
  | constant _ | constantOf .. | var _ | varOf .. | stringImm _ => []
  | broadcast x _ | bitwiseNot x | logicalNot x | neg x | cast x _ | isnan x => [x]
  | operate _ a b => [a, b]
  | all es | any es | call _ es _ => es

/-- The types that the call is given. -/
def types : Request → List DType
  | constantOf _ d | varOf _ d | cast _ d | call _ _ d => [d]
  | _ => []

end Request

/-- A call of a builder of statements. -/
inductive StmtRequest where
  | evaluate (value : Expr)
  | letIn (var value : Expr) (body : Stmt)
  | annotate (node : Expr) (key : String) (value : Expr) (body : Stmt)
  | store (buffer value index : Expr)
  | loop (var min extent : Expr) (kind : ForKind) (device : Int32) (body : Stmt)

namespace StmtRequest

/-- The builder that is called. -/
def build : StmtRequest → BuildM Stmt
  | evaluate value => Build.evaluate value
  | letIn var value body => Build.letIn var value body
  | annotate node key value body => Build.annotate node key value body
  | store buffer value index => Build.store buffer value index
  | loop var min extent kind device body => Build.loop var min extent kind device body

/-- The expressions that the call is given. -/
def operands : StmtRequest → List Expr
  | evaluate value => [value]
  | letIn var value _ => [var, value]
  | annotate node _ value _ => [node, value]
  | store buffer value index => [buffer, value, index]
  | loop var min extent _ _ _ => [var, min, extent]

/-- The statements that the call is given. -/
def bodies : StmtRequest → List Stmt
  | evaluate _ | store .. => []
  | letIn _ _ body | annotate _ _ _ body | loop _ _ _ _ _ body => [body]

end StmtRequest

/-! ### Runs -/

/-- The results so far, the latest first, and the session. -/
structure World where
  session : Session := {}
  exprs : List Expr := []
  stmts : List Stmt := []

namespace World

/-- `x` is a node of a result. -/
def Has (w : World) (x : Expr) : Prop := ∃ e ∈ w.exprs, x.Occurs e

/-- One call; a failed one gives no result. -/
def perform (w : World) (r : Request) : World :=
  match r.build.run.run w.session with
  | (.ok e, s) => { w with session := s, exprs := e :: w.exprs }
  | (.error _, s) => { w with session := s }

@[inherit_doc perform]
def performStmt (w : World) (r : StmtRequest) : World :=
  match r.build.run.run w.session with
  | (.ok t, s) => { w with session := s, stmts := t :: w.stmts }
  | (.error _, s) => { w with session := s }

/-- The world's nodes are in an inventory of its session, and its statements
are well typed. -/
def Sound (w : World) : Prop :=
  ∃ P, Inventory w.session P ∧ (∀ e ∈ w.exprs, e ∈ P) ∧ ∀ t ∈ w.stmts, t.WellTyped

end World

/-- A run leads to the world. -/
inductive Reachable : World → Prop
  | start : Reachable {}
  | perform {w : World} (h : Reachable w) (r : Request) (hops : ∀ x ∈ r.operands, w.Has x)
      (htypes : ∀ d ∈ r.types, d.Valid) : Reachable (w.perform r)
  | performStmt {w : World} (h : Reachable w) (r : StmtRequest) (hops : ∀ x ∈ r.operands, w.Has x)
      (hbodies : ∀ t ∈ r.bodies, t ∈ w.stmts) : Reachable (w.performStmt r)

/-! ### One call -/

theorem Request.tries {P : Set Expr} (r : Request) (htyped : ∀ x ∈ P, x.NodeTyped)
    (hops : ∀ x ∈ r.operands, x ∈ P) (htypes : ∀ d ∈ r.types, d.Valid) :
    Build.Tries P r.build fun _ => True := by
  cases r with
  | constant v => exact (Build.constant_makes v).tries.forget
  | constantOf v d => exact (Build.constantOf_makes (htypes d List.mem_cons_self) v).tries.forget
  | var name => exact (Build.varOf_makes (by decide) name).tries.forget
  | varOf name d => exact (Build.varOf_makes (htypes d List.mem_cons_self) name).tries.forget
  | stringImm t => exact (Build.stringImm_makes t).tries.forget
  | broadcast x lanes => exact Build.broadcast_tries (hops x List.mem_cons_self) lanes
  | operate op a b =>
    exact op.build_tries (hops a List.mem_cons_self)
      (hops b (List.mem_cons_of_mem _ List.mem_cons_self))
  | bitwiseNot x => exact (Build.bitwiseNot_tries (hops x List.mem_cons_self)).forget
  | logicalNot x => exact (Build.logicalNot_tries (hops x List.mem_cons_self)).forget
  | neg x => exact Build.neg_tries (hops x List.mem_cons_self)
  | cast x d =>
    exact (Build.cast_tries (hops x List.mem_cons_self) (htypes d List.mem_cons_self)).forget
  | all es => exact Build.combine_tries "all" .and hops
  | any es => exact Build.combine_tries "any" .or hops
  | call name args d =>
    exact (Build.call_makes name hops (htypes d List.mem_cons_self)).tries.forget
  | isnan x =>
    have hx : x ∈ P := hops x List.mem_cons_self
    exact Build.isnan_tries hx (htyped x hx).valid

/-- A builder that needs a variable first, and then makes the statement `mk i`
with the next number. -/
theorem run_needVar (form field : String) (e : Expr) (mk : Nat → Stmt) (s : Session) :
    let build : BuildM Stmt := do Build.needVar form field e; return mk (← Build.freshId)
    build.run.run s = (.error (.notVariable form field), s) ∨
      e.isVar ∧ build.run.run s = (.ok (mk s.next), { s with next := s.next + 1 }) := by
  unfold Build.needVar
  by_cases h : e.isVar
  · simp only [h, if_true]
    exact .inr ⟨trivial, rfl⟩
  · simp only [h]
    exact .inl rfl

/-- A statement is built with the next number, or not at all. -/
theorem StmtRequest.run_build (r : StmtRequest) (s : Session)
    (hops : ∀ x ∈ r.operands, x.WellTyped) (hbodies : ∀ t ∈ r.bodies, t.WellTyped) :
    (∃ err, r.build.run.run s = (.error err, s)) ∨
      ∃ t, r.build.run.run s = (.ok t, { s with next := s.next + 1 }) ∧ t.WellTyped := by
  cases r with
  | evaluate e => exact .inr ⟨_, rfl, hops e (by simp [operands])⟩
  | annotate x k e body =>
    exact .inr ⟨_, rfl, hops x (by simp [operands]), hops e (by simp [operands]),
      hbodies body (by simp [bodies])⟩
  | letIn x e body =>
    rcases run_needVar "LetStmt" "var" x (.letIn · x e body) s with hrun | ⟨hx, hrun⟩
    · exact .inl ⟨_, hrun⟩
    · exact .inr ⟨_, hrun, hx, hops x (by simp [operands]), hops e (by simp [operands]),
        hbodies body (by simp [bodies])⟩
  | store x e i =>
    rcases run_needVar "Store" "buffer_var" x (.store · x e i) s with hrun | ⟨hx, hrun⟩
    · exact .inl ⟨_, hrun⟩
    · exact .inr ⟨_, hrun, hx, hops x (by simp [operands]), hops e (by simp [operands]),
        hops i (by simp [operands])⟩
  | loop x a n kind device body =>
    rcases run_needVar "For" "loop_var" x (.loop · x a n kind device body) s with
      hrun | ⟨hx, hrun⟩
    · exact .inl ⟨_, hrun⟩
    · exact .inr ⟨_, hrun, hx, hops x (by simp [operands]), hops a (by simp [operands]),
        hops n (by simp [operands]), hbodies body (by simp [bodies])⟩

namespace World

theorem Sound.has {w : World} {P : Set Expr} (hP : Inventory w.session P)
    (hw : ∀ e ∈ w.exprs, e ∈ P) {x : Expr} (hx : w.Has x) : x ∈ P := by
  obtain ⟨e, he, hocc⟩ := hx
  exact hP.occurs hocc (hw e he)

theorem sound_perform {w : World} (h : w.Sound) (r : Request) (hops : ∀ x ∈ r.operands, w.Has x)
    (htypes : ∀ d ∈ r.types, d.Valid) : (w.perform r).Sound := by
  obtain ⟨P, hP, hexprs, hstmts⟩ := h
  have hops' : ∀ x ∈ r.operands, x ∈ P := fun x hx => Sound.has hP hexprs (hops x hx)
  obtain ⟨Q, hPQ, hQ, hok⟩ := r.tries hP.typed hops' htypes w.session hP
  unfold perform
  cases hrun : r.build.run.run w.session with
  | mk result s =>
    rw [hrun] at hQ hok
    cases result with
    | error err => exact ⟨Q, hQ, fun e he => hPQ (hexprs e he), hstmts⟩
    | ok e =>
      refine ⟨Q, hQ, fun x hx => ?_, hstmts⟩
      rcases List.mem_cons.mp hx with rfl | hx
      · exact (hok x rfl).1
      · exact hPQ (hexprs x hx)

theorem sound_performStmt {w : World} (h : w.Sound) (r : StmtRequest)
    (hops : ∀ x ∈ r.operands, w.Has x) (hbodies : ∀ t ∈ r.bodies, t ∈ w.stmts) :
    (w.performStmt r).Sound := by
  obtain ⟨P, hP, hexprs, hstmts⟩ := h
  have hops' : ∀ x ∈ r.operands, x.WellTyped := fun x hx =>
    hP.wellTyped (Sound.has hP hexprs (hops x hx))
  have hbodies' : ∀ t ∈ r.bodies, t.WellTyped := fun t ht => hstmts t (hbodies t ht)
  unfold performStmt
  rcases r.run_build w.session hops' hbodies' with ⟨err, hrun⟩ | ⟨t, hrun, ht⟩
  · rw [hrun]
    exact ⟨P, hP, hexprs, hstmts⟩
  · rw [hrun]
    refine ⟨P, hP.later (Nat.le_succ _), hexprs, fun x hx => ?_⟩
    rcases List.mem_cons.mp hx with rfl | hx
    · exact ht
    · exact hstmts x hx

end World

/-! ### All runs -/

/-- Every request keeps a world sound, so every run ends in a sound one. -/
theorem Reachable.sound {w : World} (h : Reachable w) : w.Sound := by
  induction h with
  | start => exact ⟨∅, Inventory.empty _, fun _ he => (List.not_mem_nil he).elim,
      fun _ ht => (List.not_mem_nil ht).elim⟩
  | perform _ r hops htypes ih => exact World.sound_perform ih r hops htypes
  | performStmt _ r hops hbodies ih => exact World.sound_performStmt ih r hops hbodies

/-- Every node that exists is typed. -/
theorem Reachable.nodeTyped {w : World} (h : Reachable w) {x : Expr} (hx : w.Has x) :
    x.NodeTyped := by
  obtain ⟨P, hP, hexprs, -⟩ := h.sound
  exact hP.typed x (World.Sound.has hP hexprs hx)

namespace World

/-- A variable over four lanes. -/
def vector : Expr := .var ⟨0, ⟨.int, 64, 4⟩⟩ "x"

/-- The number 3, as a default integer. -/
def three : Expr := .intImm ⟨1, .int 32⟩ 3

/-- The product. -/
def times : Operator := .binary .mul

/-- A run of four calls: the product of a vector and a number is built twice. -/
def products : World :=
  ((({} : World).perform (.varOf "x" ⟨.int, 64, 4⟩)).perform (.constant (.int32 3))).perform
    (.operate times vector three) |>.perform (.operate times vector three)

theorem products_has_vector : products.Has vector :=
  ⟨_, .tail _ (.tail _ (.tail _ (.head _))), .root⟩

theorem products_has_three : products.Has three :=
  ⟨_, .tail _ (.tail _ (.head _)), .root⟩

theorem reachable_products : Reachable products := by
  have h1 := Reachable.start.perform (.varOf "x" ⟨.int, 64, 4⟩) (List.forall_mem_nil _)
    (List.forall_mem_singleton.mpr (by decide))
  have h2 := h1.perform (.constant (.int32 3)) (List.forall_mem_nil _) (List.forall_mem_nil _)
  have h3 := h2.perform (.operate times vector three) ?_ (List.forall_mem_nil _)
  · refine h3.perform (.operate times vector three) ?_ (List.forall_mem_nil _)
    refine List.forall_mem_cons.mpr ⟨⟨_, .tail _ (.tail _ (.head _)), .root⟩, ?_⟩
    exact List.forall_mem_singleton.mpr ⟨_, .tail _ (.head _), .root⟩
  · refine List.forall_mem_cons.mpr ⟨⟨_, .tail _ (.head _), .root⟩, ?_⟩
    exact List.forall_mem_singleton.mpr ⟨_, .head _, .root⟩

end World

/-- **Every node of a run is typed.** Whatever builders were called before, in
whatever order, each node of each expression is typed, with a type that can be
made, and each statement binds variables and is made of such expressions. -/
theorem reachable_wellTyped {w : World} (h : Reachable w) :
    (∀ e ∈ w.exprs, ∀ n : Expr, n.Occurs e →
      n.NodeTyped ∧ DType.make n.dtype.code n.dtype.bits n.dtype.lanes = .ok n.dtype) ∧
    ∀ t ∈ w.stmts, t.WellTyped := by
  obtain ⟨-, -, -, hstmts⟩ := h.sound
  refine ⟨fun e he n hn => ?_, hstmts⟩
  have hn : n.NodeTyped := h.nodeTyped ⟨e, he, hn⟩
  exact ⟨hn, DType.make_eq_ok_iff.mpr ⟨rfl, hn.valid⟩⟩

/-- The products are made of typed nodes. -/
theorem products_wellTyped : Reachable World.products ∧
    (∀ e ∈ World.products.exprs, ∀ n : Expr, n.Occurs e →
      n.NodeTyped ∧ DType.make n.dtype.code n.dtype.bits n.dtype.lanes = .ok n.dtype) ∧
    ∀ t ∈ World.products.stmts, t.WellTyped :=
  ⟨World.reachable_products, reachable_wellTyped World.reachable_products⟩

end Lanewise
