/-
# Expressions

An expression is a tree of typed nodes. Each node carries the number it was
given when it was built: a number names one node, so `sameNode` tells a shared
node from one that only looks like it. Sharing matters, since two variables of
one name are two variables.

Key definitions: `Expr`, `Expr.sameNode`, `Expr.operands`.
Key theorems: `Expr.induct`.
-/
import Lanewise.DType.Basic
import Lanewise.Binary64.Basic

namespace Lanewise

/-! ### Operators -/

/-- The operators on one operand. -/
inductive UnaryOp where
  | not
  | bitwiseNot
deriving DecidableEq, Repr

/-- The operators on two operands that are not bitwise: arithmetic, logic and comparisons. -/
inductive BinaryOp where
  | add
  | sub
  | mul
  | div
  /-- The remainder of a division towards zero. -/
  | mod
  | floorDiv
  | floorMod
  | max
  | min
  | and
  | or
  | eq
  | ne
  | lt
  | le
  | gt
  | ge
deriving DecidableEq, Repr

/-- The operators on the bits of two integers. -/
inductive BitwiseOp where
  | shiftLeft
  | shiftRight
  | and
  | or
  | xor
deriving DecidableEq, Repr

/-- The name of the operator as a field shows it. -/
def UnaryOp.name : UnaryOp → String
  | not => "Not"
  | bitwiseNot => "BitwiseNot"

namespace BinaryOp

/-- The name of the operator, in fields and in errors. -/
def name : BinaryOp → String
  | add => "add"
  | sub => "sub"
  | mul => "mul"
  | div => "div"
  | mod => "mod"
  | floorDiv => "floordiv"
  | floorMod => "floormod"
  | max => "max"
  | min => "min"
  | and => "and"
  | or => "or"
  | eq => "eq"
  | ne => "ne"
  | lt => "lt"
  | le => "le"
  | gt => "gt"
  | ge => "ge"

/-- The result is a truth value per lane. -/
def isComparison : BinaryOp → Bool
  | eq | ne | lt | le | gt | ge => true
  | _ => false

/-- The operands are truth values. -/
def isLogical : BinaryOp → Bool
  | and | or => true
  | _ => false

end BinaryOp

/-- The name of the operator, in fields, in errors and in texts. -/
def BitwiseOp.name : BitwiseOp → String
  | shiftLeft => "shift_left"
  | shiftRight => "shift_right"
  | and => "bitwise_and"
  | or => "bitwise_or"
  | xor => "bitwise_xor"

/-! ### Nodes -/

/-- What every node has: its number and its type. -/
structure NodeInfo where
  id : Nat
  dtype : DType
deriving DecidableEq, Repr

/-- A typed expression. The constructors take any types and operands; which of them fit
together is up to the builders. -/
inductive Expr where
  | intImm (info : NodeInfo) (value : Int64)
  | floatImm (info : NodeInfo) (value : Binary64)
  | stringImm (info : NodeInfo) (value : String)
  | var (info : NodeInfo) (name : String)
  | unary (info : NodeInfo) (op : UnaryOp) (operand : Expr)
  | binary (info : NodeInfo) (op : BinaryOp) (lhs rhs : Expr)
  | bitwise (info : NodeInfo) (op : BitwiseOp) (lhs rhs : Expr)
  /-- Each lane of the value, converted to the node's type. -/
  | cast (info : NodeInfo) (value : Expr)
  /-- A scalar in each lane of the node. -/
  | broadcast (info : NodeInfo) (value : Expr)
  /-- A pure intrinsic. -/
  | call (info : NodeInfo) (name : String) (args : List Expr)

namespace Expr

/-- Induction over the nodes of an expression; for a call, every argument has
the property. -/
@[elab_as_elim, induction_eliminator]
theorem induct {motive : Expr → Prop}
    (intImm : ∀ i v, motive (.intImm i v))
    (floatImm : ∀ i x, motive (.floatImm i x))
    (stringImm : ∀ i s, motive (.stringImm i s))
    (var : ∀ i name, motive (.var i name))
    (unary : ∀ i op a, motive a → motive (.unary i op a))
    (binary : ∀ i op a b, motive a → motive b → motive (.binary i op a b))
    (bitwise : ∀ i op a b, motive a → motive b → motive (.bitwise i op a b))
    (cast : ∀ i a, motive a → motive (.cast i a))
    (broadcast : ∀ i a, motive a → motive (.broadcast i a))
    (call : ∀ i name args, (∀ a ∈ args, motive a) → motive (.call i name args))
    (e : Expr) : motive e :=
  Expr.rec intImm floatImm stringImm var unary binary bitwise cast broadcast call
    (fun _ h => absurd h List.not_mem_nil)
    (fun _ _ ha has _ h => (List.mem_cons.1 h).elim (fun heq => heq ▸ ha) (has _))
    e

/-! ### Parts of a node -/

/-- The head of the node. -/
def info : Expr → NodeInfo
  | intImm i _ | floatImm i _ | stringImm i _ | var i _ | unary i _ _ | binary i _ _ _
  | bitwise i _ _ _ | cast i _ | broadcast i _ | call i _ _ => i

/-- The number that the node was given. -/
def nodeId (e : Expr) : Nat := e.info.id

/-- The type of the node. -/
def dtype (e : Expr) : DType := e.info.dtype

/-- The lane count of the node. -/
def lanes (e : Expr) : UInt16 := e.dtype.lanes

/-- Both are the one node of their number. -/
def sameNode (a b : Expr) : Bool := a.nodeId = b.nodeId

/-- The name of the node's form. -/
def form : Expr → String
  | intImm .. => "IntImm"
  | floatImm .. => "FloatImm"
  | stringImm .. => "StringImm"
  | var .. => "Var"
  | unary .. => "UnaryOp"
  | binary .. => "BinaryOp"
  | bitwise .. => "BitwiseOp"
  | cast .. => "Cast"
  | broadcast .. => "Broadcast"
  | call .. => "Call"

/-- The node is a variable. -/
def isVar : Expr → Bool
  | var .. => true
  | _ => false

/-- The node is a number. -/
def isLiteral : Expr → Bool
  | intImm .. | floatImm .. => true
  | _ => false

/-- The name of a variable or an intrinsic. -/
def name? : Expr → Option String
  | var _ name | call _ name _ => some name
  | _ => none

/-- The word of an integer literal. -/
def intValue? : Expr → Option Int64
  | intImm _ v => some v
  | _ => none

/-- The double of a float literal. -/
def floatValue? : Expr → Option Binary64
  | floatImm _ x => some x
  | _ => none

/-- The characters of a string. -/
def stringValue? : Expr → Option String
  | stringImm _ s => some s
  | _ => none

/-- The children from left to right. -/
def operands : Expr → List Expr
  | intImm .. | floatImm .. | stringImm .. | var .. => []
  | unary _ _ a | cast _ a | broadcast _ a => [a]
  | binary _ _ a b | bitwise _ _ a b => [a, b]
  | call _ _ args => args

end Expr

end Lanewise
