/-
# Floating-point words

Float literals are stored, compared, converted and printed, but never added or
multiplied, so a literal is the 64-bit word of its IEEE 754 double, and each
question about it is integer arithmetic on three fields of that word: a sign,
an exponent of 11 bits and a fraction of 52. `Binary64.reading` says what the
word stands for, exactly. A word of 32 bits is only ever widened.

Key definitions: `Binary64.reading`, `Binary64.numEq`, `Binary64.ofInt`,
`Binary64.toInt64`, `Binary32.widen`.
-/

namespace Lanewise

/-- The quotient `n / d` rounded to the nearest integer, a half to the even one. -/
def divNearestEven (n d : Nat) : Nat :=
  let q := n / d
  let r := n % d
  if 2 * r < d then q
  else if d < 2 * r then q + 1
  else q + q % 2

example : divNearestEven 5 2 = 2 ∧ divNearestEven 7 2 = 4 ∧ divNearestEven 8 3 = 3 := by decide

/-- A double, as its word. -/
structure Binary64 where
  bits : UInt64
deriving DecidableEq, Repr, Inhabited

namespace Binary64

/-! ### Fields of the word -/

/-- The sign bit is set. -/
def isNegative (x : Binary64) : Bool := Nat.pow 2 63 ≤ x.bits.toNat

/-- The 11 bits below the sign. -/
def exponentField (x : Binary64) : Nat := x.bits.toNat / Nat.pow 2 52 % Nat.pow 2 11

/-- The lowest 52 bits. -/
def fraction (x : Binary64) : Nat := x.bits.toNat % Nat.pow 2 52

/-- The word with the given sign and the given exponent and fraction fields. -/
def ofMagnitude (negative : Bool) (magnitude : Nat) : Binary64 :=
  ⟨UInt64.ofNat (if negative then Nat.pow 2 63 + magnitude else magnitude)⟩

/-- What a word stands for; a finite one is `± mantissa * 2 ^ exponent`. -/
inductive Reading where
  | nan
  | infinite (negative : Bool)
  | finite (negative : Bool) (mantissa : Nat) (exponent : Int)
deriving DecidableEq, Repr

/-- The largest exponent field is kept for what is not finite, and the smallest
one for the numbers below the range where the leading bit is implied. -/
def reading (x : Binary64) : Reading :=
  if x.exponentField = 2047 then
    if x.fraction = 0 then .infinite x.isNegative else .nan
  else if x.exponentField = 0 then .finite x.isNegative x.fraction (-1074)
  else .finite x.isNegative (Nat.pow 2 52 + x.fraction) (x.exponentField - 1075)

/-- The word stands for no number and no infinity. -/
def isNaN (x : Binary64) : Bool := x.exponentField = 2047 ∧ x.fraction ≠ 0

/-- One of the two zeros. -/
def isZero (x : Binary64) : Bool := x.exponentField = 0 ∧ x.fraction = 0

/-- Equality as numbers: the two zeros are one number, and NaN is none. -/
def numEq (x y : Binary64) : Bool :=
  !x.isNaN && !y.isNaN && (x.bits = y.bits || x.isZero && y.isZero)

theorem numEq_comm (x y : Binary64) : x.numEq y = y.numEq x := by
  unfold numEq
  cases x.isNaN <;> cases y.isNaN <;> cases x.isZero <;> cases y.isZero <;>
    simp [eq_comm (a := x.bits)]

theorem numEq_self (x : Binary64) : x.numEq x = !x.isNaN := by
  cases h : x.isNaN <;> simp [numEq, h]

/-! ### Integers -/

/-- Exponent and fraction fields of the double nearest to `n`, for `n` well
inside the range of doubles. The rounded mantissa is between `2 ^ 52` and
`2 ^ 53`; its leading bit, and a carry out of it, go into the exponent field. -/
def magnitudeOfNat (n : Nat) : Nat :=
  if n = 0 then 0
  else (n.log2 + 1022) * Nat.pow 2 52 + divNearestEven (n * Nat.pow 2 52) (Nat.pow 2 n.log2)

/-- The double nearest to an integer of 64 bits; a tie goes to the even mantissa. -/
def ofInt (n : Int) : Binary64 :=
  ofMagnitude (n < 0) (magnitudeOfNat n.natAbs)

example : (ofInt 3).bits = 0x4008000000000000 ∧ (ofInt (-1)).bits = 0xbff0000000000000 := by
  decide

example : ofInt 9007199254740993 = ofInt 9007199254740992 ∧
    ofInt (2 ^ 64 - 1) = ⟨0x43f0000000000000⟩ := by decide

/-- The whole part of `mantissa * 2 ^ exponent`. -/
def wholePart (mantissa : Nat) (exponent : Int) : Nat :=
  mantissa * Nat.pow 2 exponent.toNat / Nat.pow 2 (-exponent).toNat

/-- The integer towards zero, or the nearest end of the range of 64-bit
integers where that is outside of it; NaN gives 0. -/
def toInt64 (x : Binary64) : Int64 :=
  match x.reading with
  | .nan => 0
  | .infinite negative => if negative then Int64.minValue else Int64.maxValue
  | .finite negative m e =>
    let n : Int := wholePart m e
    Int64.ofIntClamp (if negative then -n else n)

example : (⟨0xc006666666666666⟩ : Binary64).toInt64 = -2 := by decide

end Binary64

/-! ### Narrower words -/

/-- A single-precision number, as its word. -/
structure Binary32 where
  bits : UInt32
deriving DecidableEq, Repr, Inhabited

/-- The double of the same number: the fraction grows by 29 bits and the bias of
the exponent by 896. A number below the implied leading bit gets one, at the
place `k` of its highest bit. -/
def Binary32.widen (x : Binary32) : Binary64 :=
  let negative : Bool := Nat.pow 2 31 ≤ x.bits.toNat
  let exponent := x.bits.toNat / Nat.pow 2 23 % Nat.pow 2 8
  let fraction := x.bits.toNat % Nat.pow 2 23
  .ofMagnitude negative <|
    if exponent = 255 then 2047 * Nat.pow 2 52 + fraction * Nat.pow 2 29
    else if exponent ≠ 0 then (exponent + 896) * Nat.pow 2 52 + fraction * Nat.pow 2 29
    else if fraction = 0 then 0
    else
      let k := fraction.log2
      (k + 873) * Nat.pow 2 52 + fraction * Nat.pow 2 (52 - k)

example : (⟨0x3fc00000⟩ : Binary32).widen = ⟨0x3ff8000000000000⟩ ∧
    (⟨0x00000001⟩ : Binary32).widen = ⟨0x36a0000000000000⟩ := by decide

end Lanewise
