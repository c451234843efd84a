/-
# Integers as doubles

The double nearest to an integer of 64 bits is a finite number: the exponent
field of its word is far below the one that is kept for infinities and NaN.

Key theorems: `Binary64.magnitudeOfNat_lt`, `Binary64.isNaN_ofInt`.
-/
import Lanewise.Scalar
import Mathlib.Algebra.Group.Nat.Defs

namespace Lanewise

/-- Rounding to an integer does not pass the next whole number. -/
theorem divNearestEven_le {n d k : Nat} (h : n < 2 * k * d) : divNearestEven n d ≤ 2 * k := by
  have hq : n / d < 2 * k := Nat.div_lt_of_lt_mul (by rwa [Nat.mul_comm])
  unfold divNearestEven
  simp only
  split
  · omega
  · split <;> omega

namespace Binary64

/-- A mantissa below `2 ^ 53` and an exponent of at most 63 above the bias. -/
theorem magnitudeOfNat_lt {n : Nat} (h : n < 2 ^ 64) : magnitudeOfNat n < 2047 * 2 ^ 52 := by
  unfold magnitudeOfNat
  simp only [Nat.pow_eq]
  by_cases h0 : n = 0
  · simp [h0]
  · rw [if_neg h0]
    have hlog : n.log2 < 64 := (Nat.log2_lt h0).mpr h
    have hn : n < 2 ^ (n.log2 + 1) := Nat.lt_log2_self
    have hm : n * 2 ^ 52 < 2 * 2 ^ 52 * 2 ^ n.log2 := by
      calc n * 2 ^ 52 < 2 ^ (n.log2 + 1) * 2 ^ 52 := Nat.mul_lt_mul_of_pos_right hn (by decide)
        _ = 2 * 2 ^ 52 * 2 ^ n.log2 := by
          rw [Nat.pow_succ]
          omega
    have hd : divNearestEven (n * 2 ^ 52) (2 ^ n.log2) ≤ 2 * 2 ^ 52 := divNearestEven_le hm
    have he : (n.log2 + 1022) * 2 ^ 52 ≤ 1085 * 2 ^ 52 := Nat.mul_le_mul_right _ (by omega)
    calc _ ≤ 1085 * 2 ^ 52 + 2 * 2 ^ 52 := Nat.add_le_add he hd
      _ < 2047 * 2 ^ 52 := by decide

theorem toNat_bits_ofMagnitude (negative : Bool) {m : Nat} (h : m < 2 ^ 63) :
    (ofMagnitude negative m).bits.toNat = if negative then 2 ^ 63 + m else m := by
  unfold ofMagnitude
  rw [UInt64.toNat_ofNat', Nat.pow_eq]
  apply Nat.mod_eq_of_lt
  split <;> omega

theorem isNegative_ofMagnitude (negative : Bool) {m : Nat} (h : m < 2 ^ 63) :
    (ofMagnitude negative m).isNegative = negative := by
  unfold isNegative
  rw [toNat_bits_ofMagnitude negative h, Nat.pow_eq]
  cases negative
  · exact decide_eq_false (by simpa using h)
  · exact decide_eq_true (by simp)

/-- The exponent field of a word is that of its magnitude. -/
theorem exponentField_ofMagnitude (negative : Bool) {m : Nat} (h : m < 2 ^ 63) :
    (ofMagnitude negative m).exponentField = m / 2 ^ 52 := by
  unfold exponentField
  rw [toNat_bits_ofMagnitude negative h, Nat.pow_eq, Nat.pow_eq]
  split <;> omega

theorem fraction_ofMagnitude (negative : Bool) {m : Nat} (h : m < 2 ^ 63) :
    (ofMagnitude negative m).fraction = m % 2 ^ 52 := by
  unfold fraction
  rw [toNat_bits_ofMagnitude negative h, Nat.pow_eq]
  split <;> omega

/-- The exponent of a rounded machine word stays below that of a NaN. -/
theorem isNaN_ofInt {n : Int} (h : n.natAbs < 2 ^ 64) : (ofInt n).isNaN = false := by
  have hm : magnitudeOfNat n.natAbs < 2047 * 2 ^ 52 := magnitudeOfNat_lt h
  have he : (ofInt n).exponentField = magnitudeOfNat n.natAbs / 2 ^ 52 :=
    exponentField_ofMagnitude _ (by omega)
  have hne : (ofInt n).exponentField ≠ 2047 := by
    rw [he]
    omega
  simp [isNaN, hne]

end Binary64

/-- The double of an integer that a literal shows is a number. -/
theorem Scalar.isNaN_int64 (v : Int64) : (Scalar.int64 v).toBinary64.isNaN = false := by
  apply Binary64.isNaN_ofInt
  have h1 := Int64.le_toInt v
  have h2 := Int64.toInt_lt v
  show v.toInt.natAbs < 2 ^ 64
  omega

end Lanewise
