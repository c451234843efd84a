/-
# Which types a call shows

A call ends in a result or in an error, and either shows types: an expression
those of all its nodes, an error those that did not go together. Given nodes of a
run and valid types, every call shows valid types only, whatever it ends in, with
one exception: a broadcast to a lane count that no type of its kind can have is
refused with an error that shows the type it would have made. A field of a node
shows nothing that the node does not show (`Expr.types_of_field`), so one level of
introspection is enough.

Key definitions: `Expr.types`, `Outcome`, `Call`, `Call.run`, `Call.Overreaches`.
Key theorems: `Expr.types_of_field`, `Call.shows_valid`, `shown_types_valid_iff`.
-/
import Lanewise.Expr.Truth
import Lanewise.Field
import Lanewise.Proofs.Equivalence
import Lanewise.Proofs.Failure
import Lanewise.Proofs.Promotion
import Lanewise.Proofs.TypeGrammar

namespace Lanewise

/-! ### Types of results -/

/-- The types of the nodes of the expression. -/
def Expr.types (e : Expr) : Set DType := {d | ∃ n : Expr, n.Occurs e ∧ n.dtype = d}

/-- The types of the nodes of the statement's expressions. -/
def Stmt.types (t : Stmt) : Set DType := {d | ∃ e ∈ t.expressions, d ∈ e.types}

/-- The types that a field shows. -/
def FieldValue.types : FieldValue → Set DType
  | expr e => e.types
  | exprs es => {d | ∃ e ∈ es, d ∈ e.types}
  | stmt t => t.types
  | dtype d => {d}
  | int _ | float _ | str _ | forKind _ => ∅

/-- What a call ends in when it does not fail. -/
inductive Outcome where
  | dtype (d : DType)
  | expr (e : Expr)
  | stmt (t : Stmt)
  | field (v : FieldValue)
  | truth (b : Bool)

/-- The types that a result shows. -/
def Outcome.types : Outcome → Set DType
  | dtype d => {d}
  | expr e => e.types
  | stmt t => t.types
  | field v => v.types
  | truth _ => ∅

/-- The types in a result or in an error. -/
def Outcome.shown : Except BuildError Outcome → Set DType
  | .ok o => o.types
  | .error err => {d | d ∈ err.types}

/-! ### Calls -/

/-- A call of any operation that can show a type. -/
inductive Call where
  | parse (text : String)
  | make (code : TypeCode) (bits lanes : UInt16)
  | handle
  | toLanes (d : DType) (lanes : UInt16)
  | element (d : DType)
  | promote (op : String) (a b : DType)
  | literalType (v : Scalar)
  | build (r : Request)
  | buildStmt (r : StmtRequest)
  | field (e : Expr) (name : String)
  | stmtField (t : Stmt) (name : String)
  | truth (e : Expr)
  | andThen (a b : Expr)
  | orElse (a b : Expr)

namespace Call

/-- The call in a session: its result or its error. -/
def run (s : Session) : Call → Except BuildError Outcome
  | parse text => .dtype <$> DType.parse text
  | make code bits lanes => .dtype <$> DType.make code bits lanes
  | handle => .ok (.dtype .handle)
  | toLanes d lanes => .dtype <$> d.toLanes lanes
  | element d => .ok (.dtype d.element)
  | promote op a b => .dtype <$> DType.promote op a b
  | literalType v => .ok (.dtype v.dtype)
  | build r => .expr <$> (r.build.run.run s).1
  | buildStmt r => .stmt <$> (r.build.run.run s).1
  | field e name => .field <$> e.field name
  | stmtField t name => .field <$> t.field name
  | truth e => .truth <$> e.truth
  | andThen a b => .expr <$> a.andThen b
  | orElse a b => .expr <$> a.orElse b

/-- The expressions that the call is given, those of statements included. -/
def operands : Call → List Expr
  | build r => r.operands
  | buildStmt r => r.operands ++ r.bodies.flatMap Stmt.expressions
  | stmtField t _ => t.expressions
  | field e _ | truth e => [e]
  | andThen a b | orElse a b => [a, b]
  | parse _ | make .. | handle | toLanes .. | element _ | promote .. | literalType _ => []

/-- The types that the call is given. -/
def givenTypes : Call → List DType
  | toLanes d _ | element d => [d]
  | promote _ a b => [a, b]
  | build r => r.types
  | parse _ | make .. | handle | literalType _ | buildStmt _ | field .. | stmtField .. | truth _
  | andThen .. | orElse .. => []

/-- The types that the call shows in the session. -/
def shows (c : Call) (s : Session) : Set DType := Outcome.shown (c.run s)

/-- A broadcast to a lane count that no type of the operand's kind can have. -/
def Overreaches : Call → Prop
  | build (.broadcast x n) => n = 0 ∨ x.dtype.isHandle ∧ n ≠ 1
  | _ => False

end Call

/-! ### Parts of a node -/

section Fields

variable {form name : String} {table : List (String × FieldValue)} {v : FieldValue}

theorem mem_of_fieldOf (h : fieldOf form table name = .ok v) : (name, v) ∈ table := by
  unfold fieldOf at h
  split at h
  · next u hu =>
    cases h
    obtain ⟨l, r, rfl, -⟩ := List.lookup_eq_some_iff.mp hu
    simp
  · cases h

/-- The error for a field that is not there shows no type. -/
theorem types_of_fieldOf_error {err : BuildError} (h : fieldOf form table name = .error err) :
    err.types = [] := by
  unfold fieldOf at h
  split at h
  · cases h
  · cases h
    rfl

theorem Expr.types_subset_of_mem {e x : Expr} (hx : x ∈ e.operands) : x.types ⊆ e.types :=
  fun _ ⟨n, hn, hd⟩ => ⟨n, .operand hx hn, hd⟩

theorem Expr.types_of_mem_ownFields (e : Expr) :
    ∀ p ∈ e.ownFields, ∀ d ∈ p.2.types, ∃ x ∈ e.operands, d ∈ x.types := by
  cases e <;> simp +contextual [ownFields, operands, FieldValue.types]

/-- What a field of an expression shows, the expression shows. -/
theorem Expr.types_of_field {e : Expr} (h : e.field name = .ok v) : v.types ⊆ e.types := by
  intro d hd
  rcases List.mem_cons.mp (mem_of_fieldOf h) with heq | hown
  · obtain rfl : v = .dtype e.dtype := congrArg Prod.snd heq
    exact ⟨e, .root, hd.symm⟩
  · obtain ⟨x, hx, hdx⟩ := e.types_of_mem_ownFields _ hown d hd
    exact types_subset_of_mem hx hdx

theorem Stmt.types_of_mem_fields (t : Stmt) : ∀ p ∈ t.fields, ∀ d ∈ p.2.types, d ∈ t.types := by
  cases t <;> simp +contextual [fields, FieldValue.types, types, expressions]

/-- What a field of a statement shows, the statement shows. -/
theorem Stmt.types_of_field {t : Stmt} (h : t.field name = .ok v) : v.types ⊆ t.types :=
  fun d hd => t.types_of_mem_fields _ (mem_of_fieldOf h) d hd

end Fields

/-! ### One call -/

theorem DType.types_of_parse_error {text : String} {err : BuildError}
    (h : parse text = .error err) : err.types = [] := by
  unfold parse at h
  split at h
  · cases h
  · cases h
    rfl

theorem DType.types_of_make_error {code : TypeCode} {bits lanes : UInt16} {err : BuildError}
    (h : make code bits lanes = .error err) : err.types = [] := by
  unfold make at h
  split at h
  · cases h
  · cases h
    rfl

theorem Expr.types_of_truth_error {e : Expr} {err : BuildError} (h : e.truth = .error err) :
    err.types = [] := by
  unfold truth at h
  split at h
  · cases h
  · cases h
    rfl

/-- A statement is refused with an error that shows no type. -/
theorem StmtRequest.types_of_build_error {r : StmtRequest} {s : Session} {err : BuildError}
    (h : (r.build.run.run s).1 = .error err) : err.types = [] := by
  have hneed (form field : String) (e : Expr) (mk : Nat → Stmt)
      (h : ((do Build.needVar form field e; return mk (← Build.freshId) :
        BuildM Stmt).run.run s).1 = .error err) : err.types = [] := by
    rcases run_needVar form field e mk s with hrun | ⟨-, hrun⟩
    · rw [hrun] at h
      rw [← Except.error.inj h]
      rfl
    · rw [hrun] at h
      cases h
  cases r with
  | evaluate | annotate => cases h
  | letIn x e body => exact hneed "LetStmt" "var" x (.letIn · x e body) h
  | store x e i => exact hneed "Store" "buffer_var" x (.store · x e i) h
  | loop x a n kind device body =>
    exact hneed "For" "loop_var" x (.loop · x a n kind device body) h

/-- A result that is made of another one, or an error. -/
theorem Outcome.shown_valid {α : Type} {f : α → Outcome} {x : Except BuildError α}
    (hok : ∀ a, x = .ok a → ∀ d ∈ (f a).types, d.Valid)
    (herr : ∀ err, x = .error err → err.TypesValid) : ∀ d ∈ shown (f <$> x), d.Valid := by
  cases x with
  | ok a => exact hok a rfl
  | error err => exact herr err rfl

/-- A result that is made of another one, or an error that shows no type. -/
theorem Outcome.shown_valid_of_nil {α : Type} {f : α → Outcome} {x : Except BuildError α}
    (hok : ∀ a, x = .ok a → ∀ d ∈ (f a).types, d.Valid)
    (herr : ∀ err, x = .error err → err.types = []) : ∀ d ∈ shown (f <$> x), d.Valid := by
  refine shown_valid hok fun err h d hd => ?_
  rw [herr err h] at hd
  exact (List.not_mem_nil hd).elim

namespace Call

variable {w : World} {c : Call}

theorem valid_of_mem_types (hw : Reachable w) {e : Expr} (he : w.Has e) :
    ∀ d ∈ e.types, d.Valid := by
  rintro d ⟨n, hn, rfl⟩
  obtain ⟨x, hx, hex⟩ := he
  exact (hw.nodeTyped ⟨x, hx, hn.trans hex⟩).valid

theorem valid_of_mem_stmt_types (hw : Reachable w) {t : Stmt} (ht : ∀ x ∈ t.expressions, w.Has x) :
    ∀ d ∈ t.types, d.Valid := by
  rintro d ⟨e, he, hd⟩
  exact valid_of_mem_types hw (ht e he) d hd

theorem build_shows_valid (hw : Reachable w) {r : Request} (hops : ∀ x ∈ r.operands, w.Has x)
    (htypes : ∀ d ∈ r.types, d.Valid) (hc : ¬ (build r).Overreaches) :
    ∀ d ∈ (build r).shows w.session, d.Valid := by
  obtain ⟨P, hP, hexprs, -⟩ := hw.sound
  have hops' : ∀ x ∈ r.operands, x ∈ P := fun x hx => World.Sound.has hP hexprs (hops x hx)
  refine Outcome.shown_valid (fun e h => ?_) (fun err h => ?_)
  · -- the new nodes are in an inventory that extends the old one
    obtain ⟨Q, -, hQ, hok⟩ := r.tries hP.typed hops' htypes w.session hP
    rintro d ⟨n, hn, rfl⟩
    exact (hQ.typed n (hQ.occurs hn (hok e h).1)).valid
  · by_cases hr : ∃ x n, r = .broadcast x n
    · obtain ⟨x, n, rfl⟩ := hr
      have hx : x.dtype.Valid := (hP.typed x (hops' x List.mem_cons_self)).valid
      have hlanes : (x.dtype.withLanes n).Valid := (DType.withLanes_valid_iff hx n).mpr hc
      rw [Build.broadcast_failsWith n w.session hP err h]
      simp [BuildError.TypesValid, BuildError.types, hx, hlanes]
    · have hr' : ∀ x n, r ≠ .broadcast x n := fun x n heq => hr ⟨x, n, heq⟩
      exact r.failsWith hops' htypes hr' w.session hP err h

/-- A call that does not overreach shows valid types. -/
theorem shows_valid (hw : Reachable w) (hops : ∀ x ∈ c.operands, w.Has x)
    (htypes : ∀ d ∈ c.givenTypes, d.Valid) (hc : ¬ c.Overreaches) :
    ∀ d ∈ c.shows w.session, d.Valid := by
  have hone {d : DType} (hd : d.Valid) : ∀ t ∈ (Outcome.dtype d).types, t.Valid :=
    fun t ht => ht ▸ hd
  cases c with
  | parse text =>
    exact Outcome.shown_valid_of_nil
      (fun d h => hone (DType.valid_of_read? (DType.parse_eq_ok_iff.mp h)))
      fun _ => DType.types_of_parse_error
  | make code bits lanes =>
    exact Outcome.shown_valid_of_nil (fun d h => hone (DType.make_eq_ok_iff.mp h).2)
      fun _ => DType.types_of_make_error
  | handle => exact hone DType.handle_valid
  | toLanes d lanes =>
    exact Outcome.shown_valid_of_nil (fun d h => hone (DType.make_eq_ok_iff.mp h).2)
      fun _ => DType.types_of_make_error
  | element d => exact hone (htypes d List.mem_cons_self).element
  | promote op a b =>
    have ha : a.Valid := htypes a List.mem_cons_self
    have hb : b.Valid := htypes b (List.mem_cons_of_mem _ List.mem_cons_self)
    refine Outcome.shown_valid (fun d h => hone ?_) (fun err h => ?_)
    · rcases DType.eq_or_eq_of_promote_ok h with rfl | rfl
      · exact ha
      · exact hb
    · rw [DType.eq_of_promote_error h]
      simp [BuildError.TypesValid, BuildError.types, ha, hb]
  | literalType v => exact hone v.dtype_valid
  | build r => exact build_shows_valid hw hops htypes hc
  | buildStmt r =>
    refine Outcome.shown_valid_of_nil (fun t h => ?_) fun _ => StmtRequest.types_of_build_error
    refine valid_of_mem_stmt_types hw fun x hx => hops x ?_
    have hrun : r.build.run.run w.session = (.ok t, (r.build.run.run w.session).2) :=
      Prod.ext h rfl
    rcases r.expressions_of_build hrun hx with hx | ⟨u, hu, hx⟩
    · exact List.mem_append_left _ hx
    · exact List.mem_append_right _ (List.mem_flatMap.mpr ⟨u, hu, hx⟩)
  | field e name =>
    have he : ∀ d ∈ e.types, d.Valid := valid_of_mem_types hw (hops e List.mem_cons_self)
    exact Outcome.shown_valid_of_nil (fun v h d hd => he d (Expr.types_of_field h hd))
      fun _ => types_of_fieldOf_error
  | stmtField t name =>
    have ht : ∀ d ∈ t.types, d.Valid := valid_of_mem_stmt_types hw hops
    exact Outcome.shown_valid_of_nil (fun v h d hd => ht d (Stmt.types_of_field h hd))
      fun _ => types_of_fieldOf_error
  | truth e =>
    exact Outcome.shown_valid_of_nil (fun b _ d hd => hd.elim) fun _ => Expr.types_of_truth_error
  | andThen a b | orElse a b =>
    refine Outcome.shown_valid_of_nil (fun e h => ?_) (fun err h => ?_)
    · cases h
    · cases h
      rfl

/-- A call that overreaches is refused, and shows the type that it would have made. -/
theorem Overreaches.shows (hw : Reachable w) (hops : ∀ x ∈ c.operands, w.Has x)
    (hc : c.Overreaches) : ∃ d ∈ c.shows w.session, ¬ d.Valid := by
  obtain ⟨x, n, rfl⟩ : ∃ x n, c = .build (.broadcast x n) := by
    unfold Overreaches at hc
    split at hc
    · exact ⟨_, _, rfl⟩
    · exact hc.elim
  have hx : x.dtype.Valid := (hw.nodeTyped (hops x List.mem_cons_self)).valid
  refine ⟨x.dtype.withLanes n, ?_, fun h => (DType.withLanes_valid_iff hx n).mp h hc⟩
  have hrun : (build (.broadcast x n)).run w.session =
      .error (.dtypeMismatch "broadcast" x.dtype (x.dtype.withLanes n)) :=
    congrArg (Outcome.expr <$> ·) (Build.broadcast_overreach w.session hc)
  unfold Call.shows
  rw [hrun]
  simp [Outcome.shown, BuildError.types]

end Call

/-- **Every type that is shown can be made.** Whatever operation is called, on
nodes of a run and on valid types, whether it goes through or fails: the types in
its result or in its error are types that can be made, unless it is a broadcast to
no lanes, or of a handle to other than one lane. -/
theorem shown_types_valid_iff {w : World} (hw : Reachable w) {c : Call}
    (hops : ∀ x ∈ c.operands, w.Has x) (htypes : ∀ d ∈ c.givenTypes, d.Valid) :
    (∀ d ∈ c.shows w.session, DType.make d.code d.bits d.lanes = .ok d) ↔ ¬ c.Overreaches := by
  constructor
  · intro h hc
    obtain ⟨d, hd, hno⟩ := hc.shows hw hops
    exact hno (DType.make_eq_ok_iff.mp (h d hd)).2
  · intro hc d hd
    exact DType.make_eq_ok_iff.mpr ⟨rfl, Call.shows_valid hw hops htypes hc d hd⟩

namespace World

/-- A truth value. -/
def flag : Expr := .var ⟨0, .bool 1⟩ "c"

/-- A run that makes a truth value. -/
def flags : World := ({} : World).perform (.varOf "c" (.bool 1))

theorem reachable_flags : Reachable flags :=
  Reachable.start.perform (.varOf "c" (.bool 1)) (List.forall_mem_nil _)
    (List.forall_mem_singleton.mpr (by decide))

theorem flags_has_flag : flags.Has flag := ⟨_, .head _, .root⟩

end World

/-- A truth value repeated over eight lanes shows valid types, over none it does not. -/
theorem flags_shown_types : Reachable World.flags ∧ World.flags.Has World.flag ∧
    (∀ d ∈ (Call.build (.broadcast World.flag 8)).shows World.flags.session,
      DType.make d.code d.bits d.lanes = .ok d) ∧
    ¬ ∀ d ∈ (Call.build (.broadcast World.flag 0)).shows World.flags.session,
      DType.make d.code d.bits d.lanes = .ok d := by
  have hops (n : UInt16) : ∀ x ∈ (Call.build (.broadcast World.flag n)).operands,
      World.flags.Has x := List.forall_mem_singleton.mpr World.flags_has_flag
  have hlanes : ¬ ((8 : UInt16) = 0 ∨ World.flag.dtype.isHandle ∧ (8 : UInt16) ≠ 1) := by decide
  refine ⟨World.reachable_flags, World.flags_has_flag, ?_, fun h => ?_⟩
  · exact (shown_types_valid_iff World.reachable_flags (hops 8) (List.forall_mem_nil _)).mpr hlanes
  · exact (shown_types_valid_iff World.reachable_flags (hops 0) (List.forall_mem_nil _)).mp h
      (.inl rfl)

/-- The error for a truth value over no lanes shows a type of no lanes, which
cannot be made. -/
theorem no_lanes_shown : Reachable World.flags ∧ World.flags.Has World.flag ∧
    World.flag.dtype = .bool 1 ∧ DType.make .uint 1 1 = .ok (.bool 1) ∧
    ((Build.broadcast World.flag 0).run.run World.flags.session).1 =
      .error (.dtypeMismatch "broadcast" (.bool 1) (.bool 0)) ∧
    DType.make .uint 1 0 = .error (.unsupportedType .uint 1 0) :=
  ⟨World.reachable_flags, World.flags_has_flag, rfl, by decide, rfl, by decide⟩

end Lanewise
