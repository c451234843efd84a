/-
# The canonical text of an expression

Every node shows in the text, conversions that a builder inserted included, and
nothing else does. Operators stand between their operands in parentheses or
before them like a function; a cast is applied by the name of its type and a
broadcast by `x` and its lane count. Literals of the default types are bare.

Key definitions: `Expr.render`.
-/
import Lanewise.Expr.Basic
import Lanewise.DType.Text
import Lanewise.Binary64.Text
import Lanewise.Text.Quoted

namespace Lanewise

/-- How an operator is written. -/
inductive Spelling where
  /-- Between its operands, in parentheses. -/
  | between (sign : String)
  /-- Before its operands, as a function. -/
  | applied (name : String)
deriving DecidableEq, Repr

/-- How the operator is written. Products and quotients have no blanks around the sign. -/
def BinaryOp.spelling : BinaryOp → Spelling
  | add => .between " + "
  | sub => .between " - "
  | mul => .between "*"
  | div => .between "/"
  | mod => .between " % "
  | floorDiv => .applied "floordiv"
  | floorMod => .applied "floormod"
  | max => .applied "max"
  | min => .applied "min"
  | and => .between " && "
  | or => .between " || "
  | eq => .between " == "
  | ne => .between " != "
  | lt => .between " < "
  | le => .between " <= "
  | gt => .between " > "
  | ge => .between " >= "

/-- A function applied to arguments. -/
def application (name : String) (args : List String) : String :=
  name ++ "(" ++ ", ".intercalate args ++ ")"

/-- The operator written with the texts of its operands. -/
def Spelling.write (lhs rhs : String) : Spelling → String
  | between sign => "(" ++ lhs ++ sign ++ rhs ++ ")"
  | applied name => application name [lhs, rhs]

namespace Expr

/-- An integer literal; any type but `int32` is written before it. -/
def renderInt (d : DType) (v : Int64) : String :=
  if d = .int 32 then v.toInt.repr else "(" ++ d.text ++ ")" ++ v.toInt.repr

/-- A float literal; `float32` is a suffix, `float64` is not written. -/
def renderFloat (d : DType) (x : Binary64) : String :=
  if d = .float 32 then x.text ++ "f"
  else if d = .float 64 then x.text
  else "(" ++ d.text ++ ")" ++ x.text

mutual

/-- The canonical text of an expression. -/
def render : Expr → String
  | intImm i v => renderInt i.dtype v
  | floatImm i x => renderFloat i.dtype x
  | stringImm _ s => Text.quoted s
  | var _ name => name
  | unary _ .not a => "!" ++ a.render
  | unary _ .bitwiseNot a => application "bitwise_not" [a.render]
  | binary _ op a b => op.spelling.write a.render b.render
  | bitwise _ op a b => application op.name [a.render, b.render]
  | cast i a => application i.dtype.text [a.render]
  | broadcast i a => application ("x" ++ i.dtype.lanes.toNat.repr) [a.render]
  | call _ name args => application name (renderAll args)

/-- The texts of the expressions, one by one. -/
def renderAll : List Expr → List String
  | [] => []
  | a :: as => a.render :: renderAll as

end

theorem renderAll_eq_map (es : List Expr) : renderAll es = es.map render := by
  induction es with
  | nil => rfl
  | cons e es ih => simp [renderAll, ih]

instance : ToString Expr := ⟨render⟩

end Expr

end Lanewise
