/-
# Fields of nodes

Expressions and statements show their parts as a table of named fields. A field
that the form lacks is an error. The names that a form goes by are listed apart,
in a fixed order for each form.

Key definitions: `FieldValue`, `Expr.fields`, `Stmt.fields`, `Expr.field`, `Stmt.field`,
`Expr.fieldNames`, `Stmt.fieldNames`.
-/
import Lanewise.Stmt.Equality

namespace Lanewise

/-- What a field shows. -/
inductive FieldValue where
  | expr (e : Expr)
  | exprs (es : List Expr)
  | stmt (s : Stmt)
  | dtype (d : DType)
  | int (v : Int64)
  | float (x : Binary64)
  | str (s : String)
  | forKind (k : ForKind)

namespace FieldValue

/-- The expression, if the value is one. -/
def expr? : FieldValue → Option Expr
  | expr e => some e
  | _ => none

/-- The integer, if the value is one. -/
def int? : FieldValue → Option Int64
  | int v => some v
  | _ => none

/-- The string, if the value is one. -/
def str? : FieldValue → Option String
  | str s => some s
  | _ => none

/-- Equality of the parts, floats as numbers. -/
def equal : FieldValue → FieldValue → Bool
  | expr a, expr b => a.equal b
  | exprs as, exprs bs => Expr.equalAll as bs
  | stmt s, stmt t => s.equal t
  | dtype d, dtype e => d = e
  | int v, int w => v = w
  | float x, float y => x.numEq y
  | str s, str t => s = t
  | forKind k, forKind l => k = l
  | _, _ => false

end FieldValue

/-- The value at `name` of a table of fields of the form `form`. -/
def fieldOf (form : String) (table : List (String × FieldValue)) (name : String) :
    Except BuildError FieldValue :=
  match table.lookup name with
  | some v => .ok v
  | none => .error (.unknownField form name)

namespace Expr

/-- The fields after the type. -/
def ownFields : Expr → List (String × FieldValue)
  | intImm _ v => [("value", .int v)]
  | floatImm _ x => [("value", .float x)]
  | stringImm _ s => [("value", .str s)]
  | var _ name => [("name", .str name)]
  | unary _ op a => [("op", .str op.name), ("a", .expr a)]
  | binary _ op a b => [("op", .str op.name), ("a", .expr a), ("b", .expr b)]
  | bitwise _ op a b => [("op", .str op.name), ("a", .expr a), ("b", .expr b)]
  | cast _ a => [("value", .expr a)]
  | broadcast i a => [("value", .expr a), ("lanes", .int (Int64.ofNat i.dtype.lanes.toNat))]
  | call _ name args => [("name", .str name), ("args", .exprs args)]

/-- The table of all fields, the type first. -/
def fields (e : Expr) : List (String × FieldValue) := ("dtype", .dtype e.dtype) :: e.ownFields

/-- The names of the fields that nodes of this form have. -/
def fieldNames : Expr → List String
  | intImm .. | floatImm .. | stringImm .. | cast .. => ["dtype", "value"]
  | var .. => ["dtype", "name"]
  | unary .. => ["dtype", "op", "a"]
  | binary .. | bitwise .. => ["dtype", "op", "a", "b"]
  | broadcast .. => ["dtype", "value", "lanes"]
  | call .. => ["dtype", "name", "args"]

/-- The field of the name, if nodes of this form have it. -/
def field (e : Expr) (name : String) : Except BuildError FieldValue :=
  fieldOf e.form e.fields name

end Expr

namespace Stmt

/-- The table of all fields; a statement has no type. -/
def fields : Stmt → List (String × FieldValue)
  | evaluate _ e => [("value", .expr e)]
  | letIn _ x e s => [("var", .expr x), ("value", .expr e), ("body", .stmt s)]
  | annotate _ x k e s =>
    [("node", .expr x), ("attr_key", .str k), ("value", .expr e), ("body", .stmt s)]
  | store _ x e i => [("buffer_var", .expr x), ("value", .expr e), ("index", .expr i)]
  | loop _ x a n k d s =>
    [("loop_var", .expr x), ("min", .expr a), ("extent", .expr n), ("for_type", .forKind k),
      ("device_api", .int d.toInt64), ("body", .stmt s)]

/-- The names of the fields that statements of this form have. -/
def fieldNames : Stmt → List String
  | evaluate .. => ["value"]
  | letIn .. => ["var", "value", "body"]
  | annotate .. => ["node", "attr_key", "value", "body"]
  | store .. => ["buffer_var", "value", "index"]
  | loop .. => ["loop_var", "min", "extent", "for_type", "device_api", "body"]

/-- The field of the name, if statements of this form have it. -/
def field (s : Stmt) (name : String) : Except BuildError FieldValue :=
  fieldOf s.form s.fields name

end Stmt

end Lanewise
