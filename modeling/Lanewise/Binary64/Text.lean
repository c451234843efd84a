/-
# The text of a double

The shortest decimal that reads back, in positional notation. A sign stands
before negative numbers, the negative zero and the negative infinity included.

Key definitions: `Binary64.text`.
-/
import Lanewise.Binary64.Basic
import Lanewise.Decimal.Shortest

namespace Lanewise.Binary64

/-- The text with the sign before it. -/
private def signed (negative : Bool) (text : String) : String :=
  if negative then "-" ++ text else text

/-- The double in positional notation, by the fewest digits that read back. -/
def text (x : Binary64) : String :=
  match x.reading with
  | .nan => "NaN"
  | .infinite negative => signed negative "inf"
  | .finite negative m e => signed negative <|
    if m = 0 then "0"
    else String.ofList (Decimal.shortest m e (m = Nat.pow 2 52)).positional

instance : ToString Binary64 := ⟨text⟩

example : text ⟨0x8000000000000000⟩ = "-0" := by decide

end Lanewise.Binary64
