/-
# Sets of characters as ranges

A set of code points is a list of closed ranges, in increasing order.

Key definitions: `Text.inRanges`, `Text.increasing`.
-/

namespace Lanewise.Text

/-- The code point of `c` lies in one of the ranges. -/
def inRanges (ranges : List (Nat × Nat)) (c : Char) : Bool :=
  ranges.any fun (lo, hi) => lo ≤ c.toNat && c.toNat ≤ hi

/-- Each range starts at or before its end, and after the end of the one before it. -/
def increasing : List (Nat × Nat) → Bool
  | [] => true
  | [(lo, hi)] => lo ≤ hi
  | (lo, hi) :: (lo', hi') :: rest => lo ≤ hi && hi < lo' && increasing ((lo', hi') :: rest)

end Lanewise.Text
