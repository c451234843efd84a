/-
# What the fields of a node tell

Three lists speak of one node: the names that its form goes by, the table in which a
name is looked up, and the operands. They agree: a name is found just when it is
listed, and the expressions in the fields, in the order of the names, are the
operands. Nothing that equality looks at is missing from the fields either, so two
nodes are equal just when they have one form and equal values at every name. The
exceptions are variables, which are equal to themselves only, and NaN, which as a
value is not equal to itself.

Key definitions: `FieldValue.expressions`, `Expr.fieldExpressions`, `AgreeAt`.
Key theorems: `exists_fieldOf_iff`, `forall_agreeAt_iff`, `Expr.equal_iff_agreeAt`,
`Stmt.equal_iff_agreeAt`, `introspection_complete`.
-/
import Lanewise.Field
import Lanewise.Proofs.Congruence

namespace Lanewise

/-! ### Names and tables -/

section Table

variable {form name : String} {table : List (String × FieldValue)}

theorem lookup_isSome_iff_mem : (table.lookup name).isSome ↔ name ∈ table.map Prod.fst := by
  rw [List.lookup_isSome_iff, List.mem_map]
  refine exists_congr fun p => and_congr_right fun _ => ?_
  rw [beq_iff_eq, eq_comm]

/-- A field can be read just when the table lists its name. -/
theorem exists_fieldOf_iff :
    (∃ v, fieldOf form table name = .ok v) ↔ name ∈ table.map Prod.fst := by
  rw [← lookup_isSome_iff_mem, fieldOf]
  cases table.lookup name <;> simp

theorem fieldOf_of_not_mem (h : name ∉ table.map Prod.fst) :
    fieldOf form table name = .error (.unknownField form name) := by
  rw [← lookup_isSome_iff_mem, Option.not_isSome_iff_eq_none] at h
  rw [fieldOf, h]

end Table

theorem Expr.map_fst_fields (e : Expr) : e.fields.map Prod.fst = e.fieldNames := by
  cases e <;> rfl

theorem Stmt.map_fst_fields (t : Stmt) : t.fields.map Prod.fst = t.fieldNames := by
  cases t <;> rfl

/-! ### Expressions in fields -/

/-- The expressions that the value consists of. -/
def FieldValue.expressions : FieldValue → List Expr
  | expr e => [e]
  | exprs es => es
  | stmt _ | dtype _ | int _ | float _ | str _ | forKind _ => []

/-- The expressions in the fields, in the order of the names. -/
def Expr.fieldExpressions (e : Expr) : List Expr :=
  e.fieldNames.flatMap fun name => (e.field name).toOption.elim [] FieldValue.expressions

theorem Expr.fieldExpressions_eq (e : Expr) : e.fieldExpressions = e.operands := by
  cases e with
  | call i name args => exact List.append_nil args
  | _ => rfl

/-! ### Equal fields -/

/-- Two nodes, given by their fields, have equal values at the name. -/
def AgreeAt (f g : String → Except BuildError FieldValue) (name : String) : Prop :=
  ∃ v u, f name = .ok v ∧ g name = .ok u ∧ v.equal u

section Table

variable {form form' name : String} {table table' : List (String × FieldValue)} {v u : FieldValue}

theorem fieldOf_cons_self : fieldOf form ((name, v) :: table) name = .ok v := by
  simp [fieldOf]

theorem fieldOf_cons_of_ne {other : String} (h : other ≠ name) :
    fieldOf form ((name, v) :: table) other = fieldOf form table other := by
  rw [fieldOf, List.lookup_cons, beq_false_of_ne h]
  rfl

theorem agreeAt_cons_self : AgreeAt (fieldOf form ((name, v) :: table))
    (fieldOf form' ((name, u) :: table')) name ↔ v.equal u := by
  constructor
  · rintro ⟨v', u', hv, hu, h⟩
    cases fieldOf_cons_self.symm.trans hv
    cases fieldOf_cons_self.symm.trans hu
    exact h
  · exact fun h => ⟨v, u, fieldOf_cons_self, fieldOf_cons_self, h⟩

theorem agreeAt_cons_of_ne {other : String} (h : other ≠ name) :
    AgreeAt (fieldOf form ((name, v) :: table)) (fieldOf form' ((name, u) :: table')) other ↔
      AgreeAt (fieldOf form table) (fieldOf form' table') other := by
  rw [AgreeAt, AgreeAt, fieldOf_cons_of_ne h, fieldOf_cons_of_ne h]

/-- Tables of the same names, none of them twice, agree at every name just when their
values are equal place by place. -/
theorem forall_agreeAt_iff (hnames : table.map Prod.fst = table'.map Prod.fst)
    (hnodup : (table.map Prod.fst).Nodup) :
    (∀ name ∈ table.map Prod.fst, AgreeAt (fieldOf form table) (fieldOf form' table') name) ↔
      List.Forall₂ (fun p q => p.2.equal q.2) table table' := by
  induction table generalizing table' with
  | nil =>
    cases table' with
    | nil => simp
    | cons q t' => simp at hnames
  | cons p t ih =>
    cases table' with
    | nil => simp at hnames
    | cons q t' =>
      obtain ⟨n, v⟩ := p
      obtain ⟨n', u⟩ := q
      obtain ⟨rfl, htail⟩ : n = n' ∧ t.map Prod.fst = t'.map Prod.fst := by simpa using hnames
      obtain ⟨hn, hnodup⟩ := List.nodup_cons.mp hnodup
      rw [List.map_cons, List.forall_mem_cons, List.forall₂_cons, agreeAt_cons_self,
        ← ih htail hnodup]
      refine and_congr_right fun _ => forall₂_congr fun m hm => agreeAt_cons_of_ne ?_
      rintro rfl
      exact hn hm

end Table

/-! Names of operators are read back from the fields. -/

theorem UnaryOp.name_inj {f g : UnaryOp} : f.name = g.name ↔ f = g := by
  cases f <;> cases g <;> decide

theorem BinaryOp.name_inj {f g : BinaryOp} : f.name = g.name ↔ f = g := by
  cases f <;> cases g <;> decide

theorem BitwiseOp.name_inj {f g : BitwiseOp} : f.name = g.name ↔ f = g := by
  cases f <;> cases g <;> decide

namespace Expr

variable {a b : Expr}

theorem nodup_fieldNames (e : Expr) : e.fieldNames.Nodup := by
  cases e <;> exact of_decide_eq_true rfl

theorem fieldNames_eq_of_form (h : a.form = b.form) : a.fieldNames = b.fieldNames := by
  cases a, b, h using form_cases <;> rfl

/-- Over two nodes of one form that are no variables, equal fields are equal parts. -/
theorem forall_agreeAt_iff_alike (hform : a.form = b.form) (hvar : a.isVar = false) :
    (∀ name ∈ a.fieldNames, AgreeAt a.field b.field name) ↔
      a.alike b ∧ equalAll a.operands b.operands := by
  have hnames : a.fields.map Prod.fst = b.fields.map Prod.fst := by
    rw [map_fst_fields, map_fst_fields, fieldNames_eq_of_form hform]
  have hnodup : (a.fields.map Prod.fst).Nodup := a.map_fst_fields ▸ a.nodup_fieldNames
  rw [← map_fst_fields]
  refine (forall_agreeAt_iff hnames hnodup).trans ?_
  cases a, b, hform using form_cases with
  | var => cases hvar
  | broadcast i x j y =>
    -- the lanes are those of the type, which is a field of its own
    have hlanes : i.dtype = j.dtype →
        Int64.ofNat i.dtype.lanes.toNat = Int64.ofNat j.dtype.lanes.toNat := fun h => by rw [h]
    simpa [fields, ownFields, FieldValue.equal, alike, operands, equalAll, dtype, info]
      using fun h _ => hlanes h
  | _ =>
    simp [fields, ownFields, FieldValue.equal, alike, operands, equalAll, dtype, info, and_assoc,
      UnaryOp.name_inj, BinaryOp.name_inj, BitwiseOp.name_inj]

theorem alike_self (hvar : a.isVar = false) (hnan : a.isNaNLiteral = false) : a.alike a := by
  cases a with
  | var => cases hvar
  | floatImm i x =>
    have hx : x.isNaN = false := hnan
    simp [alike, Binary64.numEq_self, hx]
  | _ => simp [alike]

/-- Equality is equality of the fields, for what is neither a variable nor NaN. -/
theorem equal_iff_agreeAt (hco : a.sameNode b → a = b) (hvar : a.isVar = false)
    (hnan : a.isNaNLiteral = false) : a.equal b ↔
      a.form = b.form ∧ ∀ name ∈ a.fieldNames, AgreeAt a.field b.field name := by
  constructor
  · intro h
    rcases interchangeable_of_equal hco hnan h with ⟨rfl, -⟩ | halike
    · have hself := And.intro (alike_self hvar hnan) (equalAll_self a.operands)
      exact ⟨rfl, (forall_agreeAt_iff_alike rfl hvar).mpr hself⟩
    · have hform := form_eq_of_alike halike.1
      exact ⟨hform, (forall_agreeAt_iff_alike hform hvar).mpr halike⟩
  · rintro ⟨hform, hfields⟩
    obtain ⟨halike, hops⟩ := (forall_agreeAt_iff_alike hform hvar).mp hfields
    exact equal_of_alike halike hops

end Expr

theorem toInt64_inj {k l : Int32} : k.toInt64 = l.toInt64 ↔ k = l := by
  rw [← Int64.toInt_inj, Int32.toInt_toInt64, Int32.toInt_toInt64, Int32.toInt_inj]

namespace Stmt

variable {s t : Stmt}

/-- Two statements of one form, form by form. -/
@[elab_as_elim]
theorem form_cases {motive : (s t : Stmt) → s.form = t.form → Prop}
    (evaluate : ∀ i e j e', motive (.evaluate i e) (.evaluate j e') rfl)
    (letIn : ∀ i x e b j x' e' b', motive (.letIn i x e b) (.letIn j x' e' b') rfl)
    (annotate : ∀ i x k e b j x' k' e' b',
      motive (.annotate i x k e b) (.annotate j x' k' e' b') rfl)
    (store : ∀ i x e n j x' e' n', motive (.store i x e n) (.store j x' e' n') rfl)
    (loop : ∀ i x a n k d b j x' a' n' k' d' b',
      motive (.loop i x a n k d b) (.loop j x' a' n' k' d' b') rfl)
    (s t : Stmt) (h : s.form = t.form) : motive s t h := by
  cases s <;> cases t <;> first | (simp [form] at h; done) | skip
  · exact evaluate ..
  · exact letIn ..
  · exact annotate ..
  · exact store ..
  · exact loop ..

theorem form_eq_of_equal (h : s.equal t) : s.form = t.form := by
  unfold equal at h
  split at h <;> first | rfl | cases h

theorem nodup_fieldNames (s : Stmt) : s.fieldNames.Nodup := by
  cases s <;> exact of_decide_eq_true rfl

theorem fieldNames_eq_of_form (h : s.form = t.form) : s.fieldNames = t.fieldNames := by
  cases s, t, h using form_cases <;> rfl

theorem forall_agreeAt_iff_equal (hform : s.form = t.form) :
    (∀ name ∈ s.fieldNames, AgreeAt s.field t.field name) ↔ s.equal t := by
  have hnames : s.fields.map Prod.fst = t.fields.map Prod.fst := by
    rw [map_fst_fields, map_fst_fields, fieldNames_eq_of_form hform]
  have hnodup : (s.fields.map Prod.fst).Nodup := s.map_fst_fields ▸ s.nodup_fieldNames
  rw [← map_fst_fields]
  refine (forall_agreeAt_iff hnames hnodup).trans ?_
  cases s, t, hform using form_cases <;>
    simp [fields, FieldValue.equal, equal, and_assoc, toInt64_inj]

/-- Equality is equality of the fields, for all statements. -/
theorem equal_iff_agreeAt (s t : Stmt) : s.equal t ↔
    s.form = t.form ∧ ∀ name ∈ s.fieldNames, AgreeAt s.field t.field name :=
  ⟨fun h => ⟨form_eq_of_equal h, (forall_agreeAt_iff_equal (form_eq_of_equal h)).mpr h⟩,
    fun ⟨hform, h⟩ => (forall_agreeAt_iff_equal hform).mp h⟩

end Stmt

/-- **Introspection is complete and faithful.** A field is had just when its name is
listed, and asking for any other one is an error that tells the form and the name. The
expressions in the fields, in the order of the names, are the operands, the very nodes.
Two expressions of a run are equal just when they have one form and equal values in
every field, unless they are variables or NaN; two statements always. -/
theorem introspection_complete {w : World} (h : Reachable w) :
    (∀ (e : Expr) (name : String), ((∃ v, e.field name = .ok v) ↔ name ∈ e.fieldNames) ∧
      (name ∉ e.fieldNames → e.field name = .error (.unknownField e.form name))) ∧
    (∀ (t : Stmt) (name : String), ((∃ v, t.field name = .ok v) ↔ name ∈ t.fieldNames) ∧
      (name ∉ t.fieldNames → t.field name = .error (.unknownField t.form name))) ∧
    (∀ e : Expr, e.fieldExpressions = e.operands) ∧
    (∀ a b, w.Has a → w.Has b → a.isVar = false → a.isNaNLiteral = false →
      (a.equal b ↔ a.form = b.form ∧ ∀ name ∈ a.fieldNames, AgreeAt a.field b.field name)) ∧
    ∀ s t : Stmt, s.equal t ↔
      s.form = t.form ∧ ∀ name ∈ s.fieldNames, AgreeAt s.field t.field name := by
  obtain ⟨P, hP, hexprs, -⟩ := h.sound
  refine ⟨fun e name => ?_, fun t name => ?_, Expr.fieldExpressions_eq,
    fun a b ha hb hvar hnan => ?_, Stmt.equal_iff_agreeAt⟩
  · rw [← Expr.map_fst_fields]
    exact ⟨exists_fieldOf_iff, fieldOf_of_not_mem⟩
  · rw [← Stmt.map_fst_fields]
    exact ⟨exists_fieldOf_iff, fieldOf_of_not_mem⟩
  · have hco : a.sameNode b → a = b := fun hs => hP.coherent a (World.Sound.has hP hexprs ha)
      b (World.Sound.has hP hexprs hb) (of_decide_eq_true hs)
    exact Expr.equal_iff_agreeAt hco hvar hnan

/-- The number three, written twice: two nodes that are equal, and so are their fields. -/
theorem threes_fields : Reachable World.threes ∧ World.threes.Has (World.threeAt 0) ∧
    World.threes.Has (World.threeAt 1) ∧ (World.threeAt 0).equal (World.threeAt 1) ∧
    AgreeAt (World.threeAt 0).field (World.threeAt 1).field "value" ∧
    (World.threeAt 0).field "lanes" = .error (.unknownField "IntImm" "lanes") := by
  have h0 : World.threes.Has (World.threeAt 0) := ⟨_, .tail _ (.head _), .root⟩
  have h1 : World.threes.Has (World.threeAt 1) := ⟨_, .head _, .root⟩
  have hequal : (World.threeAt 0).equal (World.threeAt 1) := by simp [World.threeAt, Expr.equal]
  obtain ⟨hnames, -, -, hiff, -⟩ := introspection_complete World.reachable_threes
  have hfields := ((hiff _ _ h0 h1 rfl rfl).mp hequal).2
  exact ⟨World.reachable_threes, h0, h1, hequal, hfields "value" (by decide),
    (hnames _ "lanes").2 (by decide)⟩

end Lanewise
