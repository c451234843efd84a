/-
# Integers of a type

A literal keeps its integer as a word of 64 bits, and the type says which number
the word stands for: with `uint64` the word is read without a sign. What a
scalar or a literal denotes is congruent to the signed word, and the same
number below `2 ^ 63`.

Key definitions: `Scalar.integer?`, `DType.denote`, `DType.Holds`.
Key theorems: `Scalar.toInt64_eq`, `DType.denote_wrap`.
-/
import Lanewise.Build.Leaf
import Lanewise.Proofs.Running
import Lanewise.Proofs.WellTyped
import Mathlib.Algebra.Order.Ring.Int
import Mathlib.Algebra.Order.GroupWithZero.Basic

namespace Lanewise

/-- The integer that the value is; floats are none. -/
def Scalar.integer? : Scalar → Option Int
  | .bool b => some b.toNat
  | .uint8 v => some v.toNat
  | .uint16 v => some v.toNat
  | .uint32 v => some v.toNat
  | .uint64 v => some v.toNat
  | .int8 v => some v.toInt
  | .int16 v => some v.toInt
  | .int32 v => some v.toInt
  | .int64 v | .untypedInt v => some v.toInt
  | .float32 _ | .float64 _ | .untypedFloat _ => none

namespace DType

/-- The integer that the word of a literal of the type stands for. -/
def denote (d : DType) (v : Int64) : Int :=
  if d.isUInt ∧ d.bits = 64 then v.toInt % 2 ^ 64 else v.toInt

example : (uint 64).denote (-1) = 2 ^ 64 - 1 ∧ (int 64).denote (-1) = -1 := by decide

/-- The integer is in the range of the type. -/
def Holds (d : DType) (n : Int) : Prop :=
  match d.code with
  | .int => -2 ^ (d.bits.toNat - 1) ≤ n ∧ n < 2 ^ (d.bits.toNat - 1)
  | .uint => 0 ≤ n ∧ n < 2 ^ d.bits.toNat
  | .float | .handle => False

end DType

variable {v : Scalar} {n : Int} {d : DType}

/-! ### Words -/

theorem toInt_ofInt_eq_bmod (n : Int) : (Int64.ofInt n).toInt = n.bmod (2 ^ 64) := Int64.toInt_ofInt

theorem bmod_of_lt (h1 : -2 ^ 63 ≤ n) (h2 : n < 2 ^ 63) : n.bmod (2 ^ 64) = n :=
  Int.bmod_eq_of_le (by omega) (by omega)

theorem bmod_of_ge (h1 : 2 ^ 63 ≤ n) (h2 : n < 2 ^ 64) : n.bmod (2 ^ 64) = n - 2 ^ 64 := by
  rw [Int.bmod_def]
  omega

/-! ### Scalars -/

namespace Scalar

theorem float?_of_integer? (h : v.integer? = some n) : v.float? = none := by
  cases v with
  | float32 | float64 | untypedFloat => cases h
  | _ => rfl

/-- The conversion to 64 bits keeps the integer modulo `2 ^ 64`. -/
theorem toInt64_eq (h : v.integer? = some n) : v.toInt64 = .ofInt n := by
  cases v with
  | bool b =>
    cases h
    cases b <;> rfl
  | uint8 | uint16 | uint32 | uint64 =>
    cases h
    exact Int64.ofInt_eq_ofNat.symm
  | int8 x =>
    cases h
    exact (Int64.ofInt_int8ToInt x).symm
  | int16 x =>
    cases h
    exact (Int64.ofInt_int16ToInt x).symm
  | int32 x =>
    cases h
    exact (Int64.ofInt_int32ToInt x).symm
  | int64 x | untypedInt x =>
    cases h
    exact (Int64.ofInt_toInt x).symm
  | float32 | float64 | untypedFloat => cases h

/-- The double is that of the signed word. -/
theorem toBinary64_eq (h : v.integer? = some n) : v.toBinary64 = .ofInt (n.bmod (2 ^ 64)) := by
  rw [toBinary64, float?_of_integer? h, toInt64_eq h, toInt_ofInt_eq_bmod]
  rfl

theorem isTruthy_eq (h : v.integer? = some n) : v.isTruthy = decide (Int64.ofInt n ≠ 0) := by
  rw [isTruthy, float?_of_integer? h, toInt64_eq h]

/-- An integer of a declared width is in the range of its type. -/
theorem holds_dtype (h : v.integer? = some n) (hv : ∀ x, v ≠ .untypedInt x) : v.dtype.Holds n := by
  cases v with
  | bool b =>
    cases h
    cases b <;> simp [DType.Holds, dtype, DType.bool]
  | uint8 x | uint16 x | uint32 x | uint64 x =>
    cases h
    exact ⟨by omega, by exact_mod_cast x.toNat_lt⟩
  | int8 x | int16 x | int32 x | int64 x =>
    cases h
    exact ⟨x.le_toInt, x.toInt_lt⟩
  | untypedInt x => exact absurd rfl (hv x)
  | float32 | float64 | untypedFloat => cases h

end Scalar

/-! ### Types -/

namespace DType

theorem Valid.bits_bounds (hd : d.Valid) : 0 < d.bits.toNat ∧ d.bits.toNat ≤ 64 := by
  have hwidths : ∀ c : TypeCode, ∀ b ∈ c.widths, 0 < b.toNat ∧ b.toNat ≤ 64 := by
    intro c
    cases c <;> simp [TypeCode.widths]
  exact hwidths _ _ hd.1

theorem two_pow_bits_eq (hd : d.Valid) : (2 : Int) ^ d.bits.toNat = 2 * 2 ^ (d.bits.toNat - 1) := by
  rw [← Int.pow_succ', Nat.sub_add_cancel hd.bits_bounds.1]

theorem holds_iff_of_isInt (h : d.isInt) :
    d.Holds n ↔ -2 ^ (d.bits.toNat - 1) ≤ n ∧ n < 2 ^ (d.bits.toNat - 1) := by
  have hc : d.code = .int := isInt_iff.mp h
  simp only [Holds, hc]

theorem holds_iff_of_isUInt (h : d.isUInt) : d.Holds n ↔ 0 ≤ n ∧ n < 2 ^ d.bits.toNat := by
  have hc : d.code = .uint := isUInt_iff.mp h
  simp only [Holds, hc]

theorem Holds.isIntegral (h : d.Holds n) : d.isIntegral := by
  cases hc : d.code with
  | int | uint => simp [DType.isIntegral, isInt, isUInt, hc]
  | float | handle => simp only [Holds, hc] at h

/-- Only `uint64` holds numbers that a signed word does not. -/
theorem Holds.bounds (hd : d.Valid) (h : d.Holds n) :
    -2 ^ 63 ≤ n ∧ n < 2 ^ 64 ∧ (¬ (d.isUInt ∧ d.bits = 64) → n < 2 ^ 63) := by
  obtain ⟨-, hbits⟩ := hd.bits_bounds
  cases hc : d.code with
  | int =>
    simp only [Holds, hc] at h
    have hpow : (2 : Int) ^ (d.bits.toNat - 1) ≤ 2 ^ 63 :=
      pow_le_pow_right₀ (by decide) (by omega)
    omega
  | uint =>
    simp only [Holds, hc] at h
    have hpow : (2 : Int) ^ d.bits.toNat ≤ 2 ^ 64 := pow_le_pow_right₀ (by decide) hbits
    refine ⟨by omega, by omega, fun hne => ?_⟩
    have hb : d.bits.toNat ≠ 64 := fun hb => hne ⟨isUInt_iff.mpr hc, UInt16.toNat_inj.mp hb⟩
    have hpow' : (2 : Int) ^ d.bits.toNat ≤ 2 ^ 63 := pow_le_pow_right₀ (by decide) (by omega)
    omega
  | float | handle => simp only [Holds, hc] at h

theorem Holds.toInt_ofInt (hd : d.Valid) (h : d.Holds n) (hne : ¬ (d.isUInt ∧ d.bits = 64)) :
    (Int64.ofInt n).toInt = n :=
  Int64.toInt_ofInt_of_le (h.bounds hd).1 ((h.bounds hd).2.2 hne)

theorem Holds.of_isBool (h : d.Holds n) (hb : d.isBool) : n = 0 ∨ n = 1 := by
  obtain ⟨hc, hb⟩ := isBool_iff.mp hb
  have h' := (holds_iff_of_isUInt (isUInt_iff.mpr hc)).mp h
  rw [hb] at h'
  have h2 : (2 : Int) ^ (1 : UInt16).toNat = 2 := rfl
  omega

/-- A number in the range of the type is kept as it is. -/
theorem wrap_ofInt (hd : d.Valid) (h : d.Holds n) : d.wrap (.ofInt n) = .ofInt n := by
  unfold wrap
  split
  · next hb => rcases h.of_isBool hb with rfl | rfl <;> rfl
  · split
    · next hw =>
      have hbits : d.bits.toNat < 64 := by simpa [UInt16.lt_iff_toNat_lt] using hw
      have hne : ¬ (d.isUInt ∧ d.bits = 64) := by
        rintro ⟨-, h64⟩
        rw [h64] at hbits
        exact absurd hbits (by decide)
      rw [h.toInt_ofInt hd hne]
      cases hc : d.code with
      | int =>
        rw [holds_iff_of_isInt (isInt_iff.mpr hc)] at h
        have hhalf := two_pow_bits_eq hd
        exact congrArg Int64.ofInt (Int.bmod_eq_of_le_mul_two
          (by rw [Nat.pow_eq]; push_cast; omega) (by rw [Nat.pow_eq]; push_cast; omega))
      | uint =>
        rw [holds_iff_of_isUInt (isUInt_iff.mpr hc)] at h
        exact congrArg Int64.ofInt (Int.emod_eq_of_lt h.1 (by exact_mod_cast h.2))
      | float | handle => simp only [Holds, hc] at h
    · rfl

/-- A number in the range of the type is what its word stands for. -/
theorem denote_wrap (hd : d.Valid) (h : d.Holds n) : d.denote (d.wrap (.ofInt n)) = n := by
  rw [wrap_ofInt hd h, denote]
  split
  · next hu =>
    obtain ⟨h1, h2, -⟩ := h.bounds hd
    have h0 : 0 ≤ n := ((holds_iff_of_isUInt hu.1).mp h).1
    have hmod : n.bmod (2 ^ 64) % 2 ^ 64 = n % 2 ^ 64 := Int.bmod_emod
    rw [toInt_ofInt_eq_bmod, hmod, Int.emod_eq_of_lt h0 h2]
  · next hne => exact h.toInt_ofInt hd hne

theorem denote_bounds (d : DType) (v : Int64) : -2 ^ 63 ≤ d.denote v ∧ d.denote v < 2 ^ 64 := by
  have h1 := v.le_toInt
  have h2 := v.toInt_lt
  unfold denote
  split <;> omega

theorem bmod_denote (d : DType) (v : Int64) : (d.denote v).bmod (2 ^ 64) = v.toInt := by
  have h : v.toInt.bmod (2 ^ 64) = v.toInt := bmod_of_lt v.le_toInt v.toInt_lt
  unfold denote
  split
  · exact (Int.emod_bmod v.toInt (2 ^ 64)).trans h
  · exact h

end DType

theorem Scalar.bounds_of_integer? (h : v.integer? = some n) : -2 ^ 63 ≤ n ∧ n < 2 ^ 64 := by
  by_cases hv : ∀ x, v ≠ .untypedInt x
  · obtain ⟨h1, h2, -⟩ := (holds_dtype h hv).bounds v.dtype_valid
    exact ⟨h1, h2⟩
  · obtain ⟨x, rfl⟩ := Classical.not_forall_not.mp hv
    cases h
    have h2 := x.toInt_lt
    exact ⟨x.le_toInt, by omega⟩

/-! ### Literals -/

/-- The literal of an integer keeps what a lane of its type keeps. -/
theorem Expr.ofScalar_eq_intImm {i : NodeInfo} (h : v.integer? = some n)
    (hi : i.dtype.isFloat = false) : ofScalar i v = .intImm i (i.dtype.wrap (.ofInt n)) := by
  unfold ofScalar
  rw [hi, Scalar.isTruthy_eq h, Scalar.toInt64_eq h]
  by_cases hb : i.dtype.isBool
  · by_cases h0 : Int64.ofInt n = 0 <;> simp [hb, h0, DType.wrap]
  · simp [hb]

/-- The literal of an integer in the range of its type denotes it. -/
theorem constant_denotes (hv : v.integer? = some n) (hn : v.dtype.Holds n) (s : Session) :
    ∃ i u s', Build.Gives (Build.constant v) s (.intImm i u) s' ∧ i.dtype = v.dtype ∧
      i.dtype.denote u = n := by
  have hf : v.dtype.isFloat = false := DType.isFloat_of_isIntegral hn.isIntegral
  refine ⟨⟨s.next, v.dtype⟩, v.dtype.wrap (.ofInt n), { s with next := s.next + 1 }, ?_, rfl,
    DType.denote_wrap v.dtype_valid hn⟩
  rw [← Expr.ofScalar_eq_intImm hv hf]
  rfl

end Lanewise
