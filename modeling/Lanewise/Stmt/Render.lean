/-
# The canonical text of a statement

One line per statement of the chain and a closing brace per loop. Only loops
indent their bodies. A printer holds the level of indentation, so one printer
can write statements one after the other; it leaves a trace of where it was.

Key definitions: `Stmt.header`, `Stmt.print`, `Stmt.renderBy`, `Stmt.render`.
-/
import Lanewise.Stmt.Basic
import Lanewise.Expr.Render

namespace Lanewise

/-- A statement was reached at a level of indentation. -/
structure Visit where
  form : String
  level : Nat
deriving DecidableEq, Repr

/-- The wording of a visit in the trace. -/
def Visit.message (v : Visit) : String :=
  "rendering " ++ v.form ++ " at indent level " ++ v.level.repr

/-- The unit of indentation, the level, the text so far and the visits so far. -/
structure Printer where
  unit : String := "  "
  level : Nat := 0
  text : String := ""
  visits : List Visit := []

/-- What is done with a printer. -/
abbrev PrintM := StateM Printer

namespace Printer

/-- The trace of a statement of the form, at the present level. -/
def visit (form : String) : PrintM Unit :=
  modify fun p => { p with visits := p.visits ++ [⟨form, p.level⟩] }

/-- A line at the present level. -/
def line (content : String) : PrintM Unit :=
  modify fun p =>
    { p with text := p.text ++ String.join (List.replicate p.level p.unit) ++ content ++ "\n" }

/-- What `inner` prints, one level further in. -/
def nested (inner : PrintM Unit) : PrintM Unit := do
  modify fun p => { p with level := p.level + 1 }
  inner
  modify fun p => { p with level := p.level - 1 }

end Printer

/-- The word before a loop that is not run in order. -/
def ForKind.keyword : ForKind → String
  | serial => ""
  | parallel => "parallel "
  | vectorized => "vectorized "
  | unrolled => "unrolled "

namespace Stmt

/-- The line that a statement starts with. -/
def header : Stmt → String
  | evaluate _ e => e.render
  | letIn _ x e _ => "let " ++ x.render ++ " = " ++ e.render
  | annotate _ x k e _ => "// attr [" ++ x.render ++ "] " ++ k ++ " = " ++ e.render
  | store _ x e i => x.render ++ "[" ++ i.render ++ "] = " ++ e.render
  | loop _ x a n k _ _ =>
    k.keyword ++ "for (" ++ x.render ++ ", " ++ a.render ++ ", " ++ n.render ++ ") \x7b"

/-- The statement after what was printed before: its line, its body, and the brace that closes
a loop. -/
def print (s : Stmt) : PrintM Unit := do
  Printer.visit s.form
  Printer.line s.header
  match s with
  | evaluate .. | store .. => pure ()
  | letIn _ _ _ body | annotate _ _ _ _ body => body.print
  | loop _ _ _ _ _ _ body =>
    Printer.nested body.print
    Printer.line "\x7d"

/-- The text of this one statement, by a printer that may go on to others. -/
def renderBy (s : Stmt) : PrintM String := do
  modify fun p => { p with text := "" }
  s.print
  return (← get).text

/-- The text of the statement by a new printer. -/
def render (s : Stmt) : String := (s.renderBy.run {}).1

instance : ToString Stmt := ⟨render⟩

end Stmt

end Lanewise
