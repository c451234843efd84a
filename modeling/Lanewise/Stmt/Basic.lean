/-
# Statements

A statement is a chain: loops, bindings and annotations around a body, down to
an expression that is evaluated or a value that is stored. It refers to
expressions and is numbered like them. What a statement binds has to be a
variable node, which its builder checks.

Key definitions: `Stmt`, `Stmt.body?`, `Build.loop`.
-/
import Lanewise.Build.Session

namespace Lanewise

/-- How the iterations of a loop are run. -/
inductive ForKind where
  | serial
  | parallel
  | vectorized
  | unrolled
deriving DecidableEq, Repr

/-- The name of the kind as a field shows it. -/
def ForKind.name : ForKind → String
  | serial => "Serial"
  | parallel => "Parallel"
  | vectorized => "Vectorized"
  | unrolled => "Unrolled"

/-- A statement with its body, if it has one. Which parts have to be variables is up to the
builders. -/
inductive Stmt where
  /-- The expression, for its effects. -/
  | evaluate (id : Nat) (value : Expr)
  /-- The body with a variable bound to a value. -/
  | letIn (id : Nat) (var value : Expr) (body : Stmt)
  /-- The body with a keyed value attached to a node. -/
  | annotate (id : Nat) (node : Expr) (key : String) (value : Expr) (body : Stmt)
  /-- The value written at an index of a buffer. -/
  | store (id : Nat) (buffer value index : Expr)
  /-- The body for each of `extent` values of the variable from `min` on. -/
  | loop (id : Nat) (var min extent : Expr) (kind : ForKind) (device : Int32) (body : Stmt)

namespace Stmt

/-- The number that the statement was given. -/
def nodeId : Stmt → Nat
  | evaluate i _ | letIn i _ _ _ | annotate i _ _ _ _ | store i _ _ _ | loop i _ _ _ _ _ _ => i

/-- Both are the one node of their number. -/
def sameNode (s t : Stmt) : Bool := s.nodeId = t.nodeId

/-- The name of the statement's form. -/
def form : Stmt → String
  | evaluate .. => "Evaluate"
  | letIn .. => "LetStmt"
  | annotate .. => "AttrStmt"
  | store .. => "Store"
  | loop .. => "For"

/-- The statement inside; what is evaluated or stored has none. -/
def body? : Stmt → Option Stmt
  | letIn _ _ _ body | annotate _ _ _ _ body | loop _ _ _ _ _ _ body => some body
  | evaluate .. | store .. => none

end Stmt

/-! ### Builders -/

namespace Build

/-- The field of the form of statement is given a variable. -/
def needVar (form field : String) (e : Expr) : BuildM Unit :=
  if e.isVar then pure () else throw (.notVariable form field)

/-- The statement that evaluates `value`. -/
def evaluate (value : Expr) : NodeM Stmt := return .evaluate (← freshId) value

/-- The statement that binds `var`, which has to be a variable, to `value` in `body`. -/
def letIn (var value : Expr) (body : Stmt) : BuildM Stmt := do
  needVar "LetStmt" "var" var
  return .letIn (← freshId) var value body

/-- The statement that attaches `value` to `node` under `key` in `body`. -/
def annotate (node : Expr) (key : String) (value : Expr) (body : Stmt) : NodeM Stmt :=
  return .annotate (← freshId) node key value body

/-- The statement that writes `value` at `index` of `buffer`, which has to be a variable. -/
def store (buffer value index : Expr) : BuildM Stmt := do
  needVar "Store" "buffer_var" buffer
  return .store (← freshId) buffer value index

/-- The statement that runs `body` for `extent` values of `var`, which has to be a variable. -/
def loop (var min extent : Expr) (kind : ForKind) (device : Int32) (body : Stmt) :
    BuildM Stmt := do
  needVar "For" "loop_var" var
  return .loop (← freshId) var min extent kind device body

end Build

end Lanewise
