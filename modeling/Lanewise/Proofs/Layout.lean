/-
# The layout of a statement

Printing goes down the chain of bodies once, with the level of indentation kept in
the printer. The text can be said without that pass: every statement of the chain
has one line, indented by the loops around it, and below the lines the loops are
closed from the inside out. A body is laid out like a statement of its own, one
level further in if it is that of a loop (`Stmt.layout_of_body`), and that is what
the printer does (`Stmt.writes_print`). It is back at its level when it is done, so
it prints the next statement as a new one would.

What the lines say is told apart from where they stand: for each form of statement
there is one line, and one name that the trace gives it (`Stmt.begins_iff`).

Key definitions: `Printer.Writes`, `Stmt.Begins`, `Stmt.chain`, `Stmt.depth`, `Stmt.layout`,
`Stmt.visits`.
Key theorems: `Stmt.begins_iff`, `Stmt.layout_of_body`, `Stmt.writes_print`, `statement_layout`.
-/
import Lanewise.Stmt.Render

namespace Lanewise

/-! ### Printing actions -/

namespace Printer

/-- What a line at the level starts with. -/
def margin (unit : String) (level : Nat) : String := String.join (List.replicate level unit)

/-- The action adds a text and visits that depend on the unit and on the level only,
and leaves both as they are. -/
def Writes (f : PrintM Unit) (text : String → Nat → String) (visits : Nat → List Visit) : Prop :=
  ∀ p : Printer, f.run p = ((), { p with
    text := p.text ++ text p.unit p.level
    visits := p.visits ++ visits p.level })

variable {f g : PrintM Unit} {text text' : String → Nat → String}
  {visits visits' : Nat → List Visit}

theorem writes_visit (form : String) :
    Writes (visit form) (fun _ _ => "") fun n => [⟨form, n⟩] := by
  intro p
  rw [String.append_empty]
  rfl

theorem writes_line (content : String) :
    Writes (line content) (fun unit n => margin unit n ++ content ++ "\n") fun _ => [] := by
  intro p
  rw [List.append_nil, ← String.append_assoc, ← String.append_assoc]
  rfl

theorem writes_pure : Writes (pure ()) (fun _ _ => "") fun _ => [] := by
  intro p
  rw [String.append_empty, List.append_nil]
  rfl

theorem Writes.seq (hf : Writes f text visits) (hg : Writes g text' visits') :
    Writes (do f; g) (fun unit n => text unit n ++ text' unit n)
      fun n => visits n ++ visits' n := by
  intro p
  rw [StateT.run_bind, hf p]
  refine (hg _).trans ?_
  rw [String.append_assoc, List.append_assoc]

/-- The level is one more inside and is itself again after it. -/
theorem Writes.nested (hf : Writes f text visits) :
    Writes (nested f) (fun unit n => text unit (n + 1)) fun n => visits (n + 1) := by
  intro p
  have hinner := hf { p with level := p.level + 1 }
  rw [Printer.nested, StateT.run_bind]
  show ((f >>= fun _ => modify _).run { p with level := p.level + 1 }) = _
  rw [StateT.run_bind, hinner]
  rfl

theorem Writes.congr (hf : Writes f text visits) (ht : ∀ unit n, text unit n = text' unit n)
    (hv : ∀ n, visits n = visits' n) : Writes f text' visits' := by
  intro p
  rw [hf p, ht, hv]

end Printer

/-! ### The lines -/

/-- The word before a loop of each kind; a loop that is run in order has none. -/
def ForKind.words : List (ForKind × String) :=
  [(.serial, ""), (.parallel, "parallel "), (.vectorized, "vectorized "), (.unrolled, "unrolled ")]

theorem ForKind.mem_words_iff {kind : ForKind} {word : String} :
    (kind, word) ∈ words ↔ word = kind.keyword := by
  cases kind <;> simp [words, keyword]

namespace Stmt

/-- How a statement begins: the name that the trace gives its form, and its line. -/
inductive Begins : Stmt → String → String → Prop
  | evaluate (id : Nat) (value : Expr) : Begins (.evaluate id value) "Evaluate" value.render
  | letIn (id : Nat) (var value : Expr) (body : Stmt) :
      Begins (.letIn id var value body) "LetStmt" ("let " ++ var.render ++ " = " ++ value.render)
  | annotate (id : Nat) (node : Expr) (key : String) (value : Expr) (body : Stmt) :
      Begins (.annotate id node key value body) "AttrStmt"
        ("// attr [" ++ node.render ++ "] " ++ key ++ " = " ++ value.render)
  | store (id : Nat) (buffer value index : Expr) :
      Begins (.store id buffer value index) "Store"
        (buffer.render ++ "[" ++ index.render ++ "] = " ++ value.render)
  | loop (id : Nat) (var min extent : Expr) {kind : ForKind} (device : Int32) (body : Stmt)
      {word : String} (h : (kind, word) ∈ ForKind.words) :
      Begins (.loop id var min extent kind device body) "For"
        (word ++ "for (" ++ var.render ++ ", " ++ min.render ++ ", " ++ extent.render ++ ") \x7b")

/-- Every statement begins in one way. -/
theorem begins_iff {s : Stmt} {form line : String} :
    s.Begins form line ↔ form = s.form ∧ line = s.header := by
  constructor
  · intro h
    cases h with
    | evaluate | letIn | annotate | store => exact ⟨rfl, rfl⟩
    | loop _ _ _ _ _ _ hword =>
      rw [ForKind.mem_words_iff.mp hword]
      exact ⟨rfl, rfl⟩
  · rintro ⟨rfl, rfl⟩
    cases s with
    | evaluate => exact .evaluate ..
    | letIn => exact .letIn ..
    | annotate => exact .annotate ..
    | store => exact .store ..
    | loop => exact .loop _ _ _ _ _ _ (ForKind.mem_words_iff.mpr rfl)

/-! ### The layout -/

/-- The statement, its body, the body of that, and so on. -/
def chain (s : Stmt) : List Stmt :=
  s :: match s with
    | evaluate .. | store .. => []
    | letIn _ _ _ body | annotate _ _ _ _ body | loop _ _ _ _ _ _ body => body.chain

/-- The statement runs its body again and again, and indents it. -/
def isLoop : Stmt → Bool
  | loop .. => true
  | evaluate .. | letIn .. | annotate .. | store .. => false

/-- The number of loops around the `i`-th statement of the chain. -/
def depth (s : Stmt) (i : Nat) : Nat := (s.chain.take i).countP isLoop

/-- The statements of the chain with their depths. -/
def placed (s : Stmt) : List (Stmt × Nat) := s.chain.zipIdx.map fun (t, i) => (t, s.depth i)

/-- The lines with which the statements start, from the outside in. -/
def openings (unit : String) (level : Nat) (s : Stmt) : List String :=
  s.placed.map fun (t, n) => Printer.margin unit (level + n) ++ t.header ++ "\n"

/-- The lines that close the loops, from the inside out. -/
def closings (unit : String) (level : Nat) (s : Stmt) : List String :=
  (s.placed.filter fun (t, _) => t.isLoop).reverse.map fun (_, n) =>
    Printer.margin unit (level + n) ++ "\x7d" ++ "\n"

/-- The text of the statement at the level. -/
def layout (unit : String) (level : Nat) (s : Stmt) : String :=
  String.join (s.openings unit level ++ s.closings unit level)

/-- One visit for each statement of the chain. -/
def visits (level : Nat) (s : Stmt) : List Visit := s.placed.map fun (t, n) => ⟨t.form, level + n⟩

variable {s b : Stmt} {unit : String} {level : Nat}

/-! ### A statement and its body -/

/-- How much further in than the statement its body is. -/
def step (s : Stmt) : Nat := if s.isLoop then 1 else 0

theorem chain_of_body (h : s.body? = some b) : s.chain = s :: b.chain := by
  cases s <;> cases h <;> rfl

theorem chain_of_leaf (h : s.body? = none) : s.chain = [s] := by
  cases s with
  | evaluate | store => rfl
  | letIn | annotate | loop => cases h

theorem isLoop_of_leaf (h : s.body? = none) : s.isLoop = false := by
  cases s with
  | evaluate | letIn | annotate | store => rfl
  | loop => cases h

theorem depth_succ (h : s.body? = some b) (i : Nat) : s.depth (i + 1) = b.depth i + s.step := by
  rw [depth, chain_of_body h, List.take_succ_cons, List.countP_cons]
  rfl

theorem placed_of_leaf (h : s.body? = none) : s.placed = [(s, 0)] := by
  rw [placed, chain_of_leaf h]
  rfl

theorem placed_of_body (h : s.body? = some b) :
    s.placed = (s, 0) :: b.placed.map fun (t, n) => (t, n + s.step) := by
  simp only [placed, chain_of_body h, List.zipIdx_cons, List.zipIdx_succ, List.map_cons,
    List.map_map, Function.comp_def, depth_succ h]
  rfl

theorem visits_of_leaf (h : s.body? = none) : s.visits level = [⟨s.form, level⟩] := by
  rw [visits, placed_of_leaf h]
  rfl

theorem visits_of_body (h : s.body? = some b) :
    s.visits level = ⟨s.form, level⟩ :: b.visits (level + s.step) := by
  simp [visits, placed_of_body h, Nat.add_assoc, Nat.add_comm s.step]

theorem layout_of_leaf (h : s.body? = none) :
    s.layout unit level = Printer.margin unit level ++ s.header ++ "\n" := by
  simp [layout, openings, closings, placed_of_leaf h, isLoop_of_leaf h]

/-- A body is laid out as a statement of its own, between the line with which the
statement starts and the one that closes a loop. -/
theorem layout_of_body (h : s.body? = some b) :
    s.layout unit level = Printer.margin unit level ++ s.header ++ "\n" ++
      b.layout unit (level + s.step) ++
        if s.isLoop then Printer.margin unit level ++ "\x7d" ++ "\n" else "" := by
  have hopen : s.openings unit level =
      (Printer.margin unit level ++ s.header ++ "\n") :: b.openings unit (level + s.step) := by
    simp [openings, placed_of_body h, Nat.add_assoc, Nat.add_comm s.step]
  have hclose : s.closings unit level = b.closings unit (level + s.step) ++
      if s.isLoop then [Printer.margin unit level ++ "\x7d" ++ "\n"] else [] := by
    cases hl : s.isLoop <;>
      simp [closings, placed_of_body h, hl, List.filter_map, Function.comp_def, Nat.add_assoc,
        Nat.add_comm s.step]
  rw [layout, hopen, hclose, layout]
  cases s.isLoop <;> simp [String.append_assoc]

/-! ### Printing -/

open Printer in
/-- A statement is begun by a visit and its line; `rest` is what comes after. -/
theorem writes_start {rest : PrintM Unit} {text : String → Nat → String}
    {visits : Nat → List Visit} (s : Stmt) (h : Writes rest text visits) :
    Writes (do visit s.form; line s.header; rest)
      (fun unit n => margin unit n ++ s.header ++ "\n" ++ text unit n)
      fun n => ⟨s.form, n⟩ :: visits n := by
  refine ((writes_visit s.form).seq ((writes_line s.header).seq h)).congr (fun unit n => ?_)
    fun _ => rfl
  rw [String.empty_append]

/-- After its line a statement with a body prints the body and, if it is a loop, closes it. -/
theorem writes_of_body {rest : PrintM Unit} {text : String → Nat → String}
    {visits : Nat → List Visit} (s : Stmt) (hbody : s.body? = some b)
    (h : Printer.Writes rest text visits)
    (ht : ∀ unit n, text unit n = b.layout unit (n + s.step) ++
      if s.isLoop then Printer.margin unit n ++ "\x7d" ++ "\n" else "")
    (hv : ∀ n, visits n = b.visits (n + s.step)) :
    Printer.Writes (do Printer.visit s.form; Printer.line s.header; rest)
      (fun unit n => s.layout unit n) s.visits := by
  refine (writes_start s h).congr (fun unit n => ?_) fun n => ?_
  · rw [layout_of_body hbody, ht]
    exact String.append_assoc.symm
  · rw [visits_of_body hbody, hv]

/-- **Printing is laying out.** -/
theorem writes_print (s : Stmt) :
    Printer.Writes s.print (fun unit n => s.layout unit n) s.visits := by
  induction s with
  | evaluate | store =>
    refine (writes_start _ Printer.writes_pure).congr (fun unit n => ?_) fun n => ?_
    · rw [layout_of_leaf rfl, String.append_empty]
    · rw [visits_of_leaf rfl]
  | letIn i x e b ih =>
    exact writes_of_body (.letIn i x e b) rfl ih (fun _ _ => String.append_empty.symm)
      fun _ => rfl
  | annotate i x k e b ih =>
    exact writes_of_body (.annotate i x k e b) rfl ih (fun _ _ => String.append_empty.symm)
      fun _ => rfl
  | loop i x a n kind device b ih =>
    -- the body's level is one more, and the brace stands at that of the loop again
    have hrest := ih.nested.seq (Printer.writes_line "\x7d")
    exact writes_of_body (.loop i x a n kind device b) rfl hrest (fun _ _ => rfl)
      fun _ => List.append_nil _

/-! ### One statement after another -/

theorem run_renderBy (s : Stmt) (p : Printer) : s.renderBy.run p =
    (s.layout p.unit p.level, { p with
      text := s.layout p.unit p.level
      visits := p.visits ++ s.visits p.level }) := by
  have hprint := s.writes_print { p with text := "" }
  rw [renderBy, StateT.run_bind]
  show (s.print >>= fun _ => do return (← get).text).run { p with text := "" } = _
  rw [StateT.run_bind, hprint, String.empty_append]
  rfl

theorem run_mapM_renderBy (ss : List Stmt) (p : Printer) :
    ((ss.mapM renderBy).run p).1 = ss.map fun s => s.layout p.unit p.level := by
  induction ss generalizing p with
  | nil => rfl
  | cons s ss ih =>
    rw [List.mapM_cons, StateT.run_bind, run_renderBy]
    show s.layout p.unit p.level :: ((ss.mapM renderBy).run _).1 = _
    rw [ih, List.map_cons]

end Stmt

/-- **The text of a statement.** A printer, whatever its unit and level and whatever it
printed before, gives the lines of the chain from the outside in, each with the unit
once for each level and each loop around it, and then closes the loops from the inside
out. It visits each statement of the chain once, in that order, and tells so in the
trace; it keeps its unit and its level, so each statement of a list gets the text that
a new printer gives it. What the line and the name of a statement are, its form says. -/
theorem statement_layout (s : Stmt) (p : Printer) :
    (s.renderBy.run p).1 = String.join
      (s.placed.map (fun (t, n) => Printer.margin p.unit (p.level + n) ++ t.header ++ "\n") ++
        (s.placed.filter fun (t, _) => t.isLoop).reverse.map fun (_, n) =>
          Printer.margin p.unit (p.level + n) ++ "\x7d" ++ "\n") ∧
    (s.renderBy.run p).2.visits =
      p.visits ++ s.placed.map (fun (t, n) => ⟨t.form, p.level + n⟩) ∧
    (s.renderBy.run p).2.visits.map Visit.message = p.visits.map Visit.message ++
      s.placed.map (fun (t, n) => "rendering " ++ t.form ++ " at indent level " ++
        (p.level + n).repr) ∧
    (∀ (t : Stmt) form line, t.Begins form line ↔ form = t.form ∧ line = t.header) ∧
    (s.renderBy.run p).2.unit = p.unit ∧ (s.renderBy.run p).2.level = p.level ∧
    ∀ ss : List Stmt, ((ss.mapM Stmt.renderBy).run p).1 =
      ss.map fun t => (t.renderBy.run { unit := p.unit, level := p.level }).1 := by
  rw [Stmt.run_renderBy]
  refine ⟨rfl, rfl, ?_, fun _ _ _ => Stmt.begins_iff, rfl, rfl, fun ss => ?_⟩
  · rw [List.map_append, Stmt.visits, List.map_map]
    rfl
  · rw [Stmt.run_mapM_renderBy]
    refine List.map_congr_left fun t _ => ?_
    rw [Stmt.run_renderBy]

/-- A store in loops of every kind, below a binding and an annotation. -/
def Stmt.nest : Stmt :=
  let n : Expr := .var ⟨0, .int 32⟩ "n"
  let i : Expr := .var ⟨1, .int 32⟩ "i"
  let j : Expr := .var ⟨2, .int 32⟩ "j"
  let k : Expr := .var ⟨3, .int 32⟩ "k"
  let l : Expr := .var ⟨4, .int 32⟩ "l"
  let p : Expr := .var ⟨5, .handle⟩ "p"
  let zero : Expr := .intImm ⟨6, .int 32⟩ 0
  let four : Expr := .intImm ⟨7, .int 32⟩ 4
  .letIn 15 n four <| .annotate 14 p "align" four <| .loop 13 i zero n .parallel 0 <|
    .loop 12 j zero four .serial 0 <| .loop 11 k zero four .vectorized 0 <|
      .loop 10 l zero four .unrolled 0 <| .store 9 p zero (.binary ⟨8, .int 32⟩ .add i l)

/-- A printer that indents by tabs and is one level in. -/
def Printer.tabbed : Printer := { unit := "\t", level := 1 }

/-- The nest in full, with its trace, and once more after another statement. -/
theorem nest_layout :
    (Stmt.nest.renderBy.run .tabbed).1 = String.join
      ["\tlet n = 4\n",
        "\t// attr [p] align = 4\n",
        "\tparallel for (i, 0, n) \x7b\n",
        "\t\tfor (j, 0, 4) \x7b\n",
        "\t\t\tvectorized for (k, 0, 4) \x7b\n",
        "\t\t\t\tunrolled for (l, 0, 4) \x7b\n",
        "\t\t\t\t\tp[(i + l)] = 0\n",
        "\t\t\t\t\x7d\n",
        "\t\t\t\x7d\n",
        "\t\t\x7d\n",
        "\t\x7d\n"] ∧
    (Stmt.nest.renderBy.run .tabbed).2.visits.map Visit.message =
      ["rendering LetStmt at indent level 1", "rendering AttrStmt at indent level 1",
        "rendering For at indent level 1", "rendering For at indent level 2",
        "rendering For at indent level 3", "rendering For at indent level 4",
        "rendering Store at indent level 5"] ∧
    (([.evaluate 16 (.var ⟨0, .int 32⟩ "n"), Stmt.nest].mapM Stmt.renderBy).run .tabbed).1 =
      ["\tn\n", (Stmt.nest.renderBy.run .tabbed).1] := by
  obtain ⟨htext, -, htrace, -, -, -, hlist⟩ := statement_layout .nest .tabbed
  exact ⟨htext.trans rfl, htrace.trans rfl, (hlist _).trans rfl⟩

end Lanewise
