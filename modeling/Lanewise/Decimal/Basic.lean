/-
# Decimal numbers in positional notation

A decimal number is a natural number of units, each a power of ten. Its text is
positional whatever the exponent, with no point after a whole number and one
zero before the point of a proper fraction.

Key definitions: `Decimal`, `Decimal.positional`.
-/

namespace Lanewise

/-- The number `digits * 10 ^ exponent`. -/
structure Decimal where
  digits : Nat
  exponent : Int
deriving DecidableEq, Repr

namespace Decimal

/-- A run of `n` zeros. -/
private def zeros (n : Nat) : List Char := List.replicate n '0'

/-- Digits with a point before the last `places` of them. -/
def pointed (ds : List Char) (places : Nat) : List Char :=
  if places < ds.length then
    ds.take (ds.length - places) ++ '.' :: ds.drop (ds.length - places)
  else '0' :: '.' :: zeros (places - ds.length) ++ ds

/-- The number in positional notation: zeros after its digits, or a point among them. -/
def positional (d : Decimal) : List Char :=
  let ds := Nat.toDigits 10 d.digits
  match d.exponent with
  | .ofNat n => ds ++ zeros n
  | .negSucc n => pointed ds (n + 1)

example : String.ofList (positional ⟨125, -2⟩) = "1.25" ∧
    String.ofList (positional ⟨5, -3⟩) = "0.005" ∧
    String.ofList (positional ⟨12, 3⟩) = "12000" := by decide

end Decimal

end Lanewise
