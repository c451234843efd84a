/-
# Building sessions

Expressions are built in a session, which numbers the nodes so that no two get
the same number, and keeps a journal of what builders did beyond what they were
asked: conversions put in and constants folded. A build that fails keeps what
was in the journal before it.

Key definitions: `Session`, `NodeM`, `BuildM`, `fresh`, `journal`.
-/
import Lanewise.Error
import Lanewise.Expr.Basic
import Lanewise.Binary64.Text

namespace Lanewise

/-- What a builder did beyond what it was asked. -/
inductive Note where
  /-- An operand was converted to the other one's lane type. -/
  | implicitCast (source element : DType)
  /-- A scalar operand was repeated over the other one's lanes. -/
  | implicitBroadcast (source : DType) (lanes : UInt16)
  /-- A literal was converted instead of a cast built. -/
  | foldedCast (source element : DType)
  /-- An integer was tested for NaN. -/
  | integerNaN (dtype : DType)
  /-- A float literal was tested for NaN. -/
  | literalNaN (value : Binary64)
deriving DecidableEq, Repr

/-- The wording of a note in the log. -/
def Note.message : Note → String
  | implicitCast source element =>
    "inserting implicit cast " ++ source.text ++ " -> " ++ element.text
  | implicitBroadcast source lanes =>
    "inserting implicit broadcast of " ++ source.text ++ " to " ++ lanes.toNat.repr ++ " lanes"
  | foldedCast source element =>
    "folded literal cast " ++ source.text ++ " -> " ++ element.text
  | integerNaN dtype => "isnan on " ++ dtype.text ++ " folded to false"
  | literalNaN value => "isnan on literal " ++ value.text ++ " folded"

/-- The number that the next node gets, and the journal, oldest note first. -/
structure Session where
  next : Nat := 0
  notes : List Note := []

/-- A build that cannot fail. -/
abbrev NodeM := StateM Session

/-- A build that may fail. -/
abbrev BuildM := ExceptT BuildError NodeM

namespace Build

/-- A number that no node of the session has. -/
def freshId : NodeM Nat := fun s => (s.next, { s with next := s.next + 1 })

/-- The head of a new node. -/
def fresh (dtype : DType) : NodeM NodeInfo := return ⟨← freshId, dtype⟩

/-- A note at the end of the journal. -/
def journal (note : Note) : NodeM Unit := modify fun s => { s with notes := s.notes ++ [note] }

end Build

end Lanewise
