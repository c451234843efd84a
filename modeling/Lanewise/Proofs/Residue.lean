/-
# Integers reduced to a type

The word that a lane keeps stands for one number of the type's range: for the
only one that is congruent to the given number modulo `2 ^ bits`, or, for
booleans, for whether the number is zero. Said of numbers instead of words the
rule no longer depends on where the number comes from: what a word stands for
in one type is reduced to another one as the word itself.

Key definitions: `DType.residue`, `DType.Reduces`.
Key theorems: `DType.reduces_iff`, `DType.denote_wrap_eq_residue`, `DType.residue_denote`,
`DType.residue_residue`.
-/
import Lanewise.Proofs.Integers
import Mathlib.Data.Int.ModEq

namespace Lanewise.DType

variable {d t : DType} {n x y z : Int}

/-- `y` is the number that a lane of the type keeps of `x`. -/
def Reduces (d : DType) (x y : Int) : Prop :=
  if d.isBool then y = if x = 0 then 0 else 1
  else ∀ z, d.Holds z ∧ z ≡ x [ZMOD 2 ^ d.bits.toNat] ↔ z = y

/-- That number, computed. -/
def residue (d : DType) (x : Int) : Int :=
  if d.isBool then if x = 0 then 0 else 1
  else if d.isInt then x.bmod (2 ^ d.bits.toNat)
  else x % 2 ^ d.bits.toNat

example : (int 8).residue 200 = -56 ∧ (uint 8).residue (-56) = 200 ∧ (bool 1).residue 200 = 1 := by
  decide

/-! ### The range -/

theorem isInt_or_isUInt (hi : d.isIntegral) : d.isInt ∨ d.isUInt := by
  rwa [isIntegral, Bool.or_eq_true] at hi

theorem isUInt_of_isBool (hb : d.isBool) : d.isUInt :=
  isUInt_iff.mpr (isBool_iff.mp hb).1

theorem isInt_of_isUInt (hu : d.isUInt) : d.isInt = false := by
  have hc : d.code = .uint := isUInt_iff.mp hu
  simp [isInt, hc]

theorem residue_of_isInt (h : d.isInt) : d.residue x = x.bmod (2 ^ d.bits.toNat) := by
  have hb : ¬ d.isBool := fun hb =>
    Bool.false_ne_true ((isInt_of_isUInt (isUInt_of_isBool hb)).symm.trans h)
  rw [residue, if_neg hb, if_pos h]

theorem residue_of_isUInt (hb : d.isBool = false) (h : d.isUInt) :
    d.residue x = x % 2 ^ d.bits.toNat := by
  rw [residue, hb, isInt_of_isUInt h]
  rfl

theorem residue_of_isBool (hb : d.isBool) : d.residue x = if x = 0 then 0 else 1 := if_pos hb

theorem holds_residue (hd : d.Valid) (hi : d.isIntegral) (x : Int) : d.Holds (d.residue x) := by
  have hpos : (0 : Int) < 2 ^ d.bits.toNat := Int.pow_pos (by decide)
  by_cases hb : d.isBool
  · have hbits : d.bits = 1 := (isBool_iff.mp hb).2
    have h2 : (2 : Int) ^ (1 : UInt16).toNat = 2 := rfl
    rw [holds_iff_of_isUInt (isUInt_of_isBool hb), residue_of_isBool hb, hbits, h2]
    split <;> decide
  · rcases isInt_or_isUInt hi with h | h
    · have hhalf := two_pow_bits_eq hd
      have hnat : 0 < 2 ^ d.bits.toNat := Nat.pow_pos (by decide)
      have hlow := Int.le_bmod (x := x) hnat
      have hhigh := Int.bmod_lt (x := x) hnat
      push_cast at hlow hhigh
      rw [holds_iff_of_isInt h, residue_of_isInt h]
      omega
    · rw [holds_iff_of_isUInt h, residue_of_isUInt (Bool.eq_false_iff.mpr hb) h]
      exact ⟨Int.emod_nonneg _ hpos.ne', Int.emod_lt_of_pos _ hpos⟩

/-- A number of the range stands for itself. -/
theorem Holds.residue_eq (hd : d.Valid) (hi : d.isIntegral) (h : d.Holds n) : d.residue n = n := by
  by_cases hb : d.isBool
  · rw [residue_of_isBool hb]
    rcases h.of_isBool hb with rfl | rfl <;> rfl
  · rcases isInt_or_isUInt hi with hint | hu
    · have hhalf := two_pow_bits_eq hd
      rw [holds_iff_of_isInt hint] at h
      rw [residue_of_isInt hint]
      exact Int.bmod_eq_of_le_mul_two (by push_cast; omega) (by push_cast; omega)
    · rw [holds_iff_of_isUInt hu] at h
      rw [residue_of_isUInt (Bool.eq_false_iff.mpr hb) hu]
      exact Int.emod_eq_of_lt h.1 h.2

/-! ### Congruence -/

theorem residue_modEq (hb : d.isBool = false) (x : Int) :
    d.residue x ≡ x [ZMOD 2 ^ d.bits.toNat] := by
  rw [residue, hb, if_neg Bool.false_ne_true]
  by_cases h : d.isInt
  · rw [if_pos h]
    have hmod : x.bmod (2 ^ d.bits.toNat) % ((2 ^ d.bits.toNat : Nat) : Int) =
        x % ((2 ^ d.bits.toNat : Nat) : Int) := Int.bmod_emod
    exact_mod_cast hmod
  · rw [if_neg h]
    exact Int.mod_modEq x _

theorem residue_congr (hb : d.isBool = false) (h : x ≡ y [ZMOD 2 ^ d.bits.toNat]) :
    d.residue x = d.residue y := by
  rw [residue, residue, hb, if_neg Bool.false_ne_true, if_neg Bool.false_ne_true]
  by_cases hint : d.isInt
  · have h' : x % ((2 ^ d.bits.toNat : Nat) : Int) = y % ((2 ^ d.bits.toNat : Nat) : Int) := by
      exact_mod_cast h
    rw [if_pos hint, if_pos hint, ← Int.emod_bmod x, h', Int.emod_bmod]
  · rw [if_neg hint, if_neg hint]
    exact h

/-- There is one number that a lane keeps, and it is the residue. -/
theorem reduces_iff (hd : d.Valid) (hi : d.isIntegral) : d.Reduces x y ↔ y = d.residue x := by
  unfold Reduces
  by_cases hb : d.isBool
  · rw [if_pos hb, residue_of_isBool hb]
  · have hb' : d.isBool = false := Bool.eq_false_iff.mpr hb
    rw [if_neg hb]
    constructor
    · intro h
      exact ((h _).mp ⟨holds_residue hd hi x, residue_modEq hb' x⟩).symm
    · rintro rfl z
      constructor
      · rintro ⟨hz, hzx⟩
        rw [← hz.residue_eq hd hi, residue_congr hb' hzx]
      · rintro rfl
        exact ⟨holds_residue hd hi x, residue_modEq hb' x⟩

/-- A reduction to more bits first changes nothing. -/
theorem residue_residue (hd : d.isBool = false) (ht : t.isBool = false) (h : d.bits ≤ t.bits) :
    d.residue (t.residue x) = d.residue x := by
  have hdvd : (2 : Int) ^ d.bits.toNat ∣ 2 ^ t.bits.toNat :=
    pow_dvd_pow 2 (UInt16.le_iff_toNat_le.mp h)
  exact residue_congr hd ((residue_modEq ht x).of_dvd hdvd)

/-! ### Words -/

/-- What a lane keeps of a word, as a word. -/
theorem wrap_eq_ofInt_residue (hd : d.Valid) (hi : d.isIntegral) (v : Int64) :
    d.wrap v = .ofInt (d.residue v.toInt) := by
  have hword : ∀ m : Int, m.bmod (2 ^ 64) = v.toInt → v = .ofInt m := fun m hm =>
    ((Int64.ofInt_eq_iff_bmod_eq_toInt m v).mpr hm).symm
  unfold wrap
  by_cases hb : d.isBool
  · rw [if_pos hb, residue_of_isBool hb]
    by_cases hv : v = 0
    · rw [if_pos hv, hv]
      rfl
    · have hv' : v.toInt ≠ 0 := fun h0 => hv (Int64.toInt.inj h0)
      rw [if_neg hv, if_neg hv']
      rfl
  · rw [if_neg hb]
    by_cases hw : d.bits < 64
    · rw [if_pos hw]
      rcases isInt_or_isUInt hi with h | h
      · have hc : d.code = .int := isInt_iff.mp h
        rw [hc, residue_of_isInt h]
        rfl
      · have hc : d.code = .uint := isUInt_iff.mp h
        rw [hc, residue_of_isUInt (Bool.eq_false_iff.mpr hb) h]
        simp only [Nat.pow_eq]
        push_cast
        rfl
    · -- the word itself, read with a sign or without
      have h64 : d.bits.toNat = 64 := by
        have h1 := hd.bits_bounds.2
        have h2 : ¬ d.bits.toNat < 64 := fun h => hw (UInt16.lt_iff_toNat_lt.mpr h)
        omega
      have hself : v.toInt.bmod (2 ^ 64) = v.toInt := bmod_of_lt v.le_toInt v.toInt_lt
      rw [if_neg hw]
      refine hword _ ?_
      rcases isInt_or_isUInt hi with h | h
      · rw [residue_of_isInt h, h64, hself, hself]
      · rw [residue_of_isUInt (Bool.eq_false_iff.mpr hb) h, h64]
        exact (Int.emod_bmod v.toInt (2 ^ 64)).trans hself

/-- What the kept word stands for. -/
theorem denote_wrap_eq_residue (hd : d.Valid) (hi : d.isIntegral) (v : Int64) :
    d.denote (d.wrap v) = d.residue v.toInt := by
  have hn := holds_residue hd hi v.toInt
  rw [wrap_eq_ofInt_residue hd hi, ← wrap_ofInt hd hn, denote_wrap hd hn]

/-- The type in which a word is read does not show in its residues. -/
theorem residue_denote (hd : d.Valid) (e : DType) (v : Int64) :
    d.residue (e.denote v) = d.residue v.toInt := by
  unfold denote
  split
  · by_cases hb : d.isBool
    · have hzero : v.toInt % 2 ^ 64 = 0 ↔ v.toInt = 0 := by
        have h1 := v.le_toInt
        have h2 := v.toInt_lt
        omega
      rw [residue_of_isBool hb, residue_of_isBool hb]
      simp only [hzero]
    · have hdvd : (2 : Int) ^ d.bits.toNat ∣ 2 ^ 64 := pow_dvd_pow 2 hd.bits_bounds.2
      exact residue_congr (Bool.eq_false_iff.mpr hb) ((Int.mod_modEq v.toInt _).of_dvd hdvd)
  · rfl

/-- A type reads different words as different numbers. -/
theorem denote_inj {u v : Int64} (h : d.denote u = d.denote v) : u = v := by
  apply Int64.toInt.inj
  rw [← bmod_denote d u, ← bmod_denote d v, h]

end Lanewise.DType
