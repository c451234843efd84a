/-
# Wrapping a word

A lane of an integer type below 64 bits keeps of a word the one number of the type's
range that is congruent to it, modulo `2 ^ bits`; a wider lane and one that is no
integer keep the word as it is, and a boolean keeps whether the word is zero. Hence
two words are kept alike just when they are congruent, and what a wider type kept can
still be wrapped as if it were the word (`DType.wrap_wrap_of_le`): both are residues,
up to the signed reading of a word, and follow from the laws of residues.

The words themselves are wrapped by two shifts: the bits above the type's width
leave at the top, and on the way back copies of the sign or zeros come in
(`DType.wrap_eq_wrapByShifts`).

Key definitions: `DType.wrapByShifts`.
Key theorems: `toInt_shiftLeft_sshiftRight`, `toNat_shiftLeft_ushiftRight`,
`DType.wrap_eq_wrapByShifts`, `DType.wrap_eq_wrap_iff`, `DType.wrapping_canonical`.
-/
import Lanewise.Proofs.Residue
import Mathlib.Data.BitVec

namespace Lanewise

/-! ### To the top of the word and back -/

section Shifts

variable {w k : Nat} (x : BitVec w)

/-- With copies of the sign on the way back, what is left is read with its own sign. -/
theorem shiftLeft_sshiftRight (hk : k < w) :
    (x <<< k).sshiftRight k = (x.setWidth (w - k)).signExtend w := by
  apply BitVec.eq_of_getLsbD_eq
  intro i hi
  have hi' : ¬ w ≤ i := by omega
  rw [BitVec.getLsbD_sshiftRight, BitVec.getLsbD_signExtend, BitVec.msb_setWidth,
    BitVec.msb_eq_getLsbD_last]
  simp only [BitVec.getLsbD_shiftLeft, BitVec.getLsbD_setWidth]
  by_cases h : k + i < w
  · have hlow : i < w - k := by omega
    simp [hi, hi', h, hlow]
  · -- above the bits that are left, both sides have the highest of them
    have hlow : ¬ i < w - k := by omega
    have hlast : w - 1 - k = w - k - 1 := by omega
    have hw : w - 1 < w := by omega
    have hk' : ¬ w - 1 < k := by omega
    have hpos : 0 < w - k := by omega
    simp [hi, hi', h, hlow, hlast, hw, hk', hpos]

theorem toInt_shiftLeft_sshiftRight (hk : k < w) :
    ((x <<< k).sshiftRight k).toInt = x.toInt.bmod (2 ^ (w - k)) := by
  have hdvd : 2 ^ (w - k) ∣ 2 ^ w := Nat.pow_dvd_pow 2 (Nat.sub_le w k)
  rw [shiftLeft_sshiftRight x hk, BitVec.toInt_signExtend_of_le (Nat.sub_le w k),
    BitVec.toInt_setWidth, BitVec.toInt_eq_toNat_bmod, Int.bmod_bmod_of_dvd hdvd]

/-- With zeros on the way back, the bits above are cleared. -/
theorem toNat_shiftLeft_ushiftRight (hk : k ≤ w) :
    ((x <<< k) >>> k).toNat = x.toNat % 2 ^ (w - k) := by
  have hw : 2 ^ w = 2 ^ (w - k) * 2 ^ k := by rw [← Nat.pow_add, Nat.sub_add_cancel hk]
  rw [BitVec.toNat_ushiftRight, BitVec.toNat_shiftLeft, Nat.shiftLeft_eq,
    Nat.shiftRight_eq_div_pow, hw, Nat.mul_mod_mul_right,
    Nat.mul_div_cancel _ (Nat.two_pow_pos k)]

theorem toInt_shiftLeft_ushiftRight (h0 : 0 < k) (hk : k ≤ w) :
    ((x <<< k) >>> k).toInt = x.toInt % 2 ^ (w - k) := by
  have hdvd : 2 ^ (w - k) ∣ 2 ^ w := Nat.pow_dvd_pow 2 (Nat.sub_le w k)
  have hmod : x.toInt % (2 ^ (w - k) : Nat) = x.toNat % (2 ^ (w - k) : Nat) := by
    rw [BitVec.toInt_eq_toNat_bmod, DType.emod_of_bmod _ hdvd]
  -- the highest bit is cleared, so the word has no sign
  have hlow : 2 * ((x <<< k) >>> k).toNat < 2 ^ w := by
    have hlt : x.toNat % 2 ^ (w - k) < 2 ^ (w - k) := Nat.mod_lt _ (Nat.two_pow_pos _)
    have hle : 2 ^ (w - k + 1) ≤ 2 ^ w := Nat.pow_le_pow_right (by decide) (by omega)
    rw [toNat_shiftLeft_ushiftRight x hk]
    omega
  rw [BitVec.toInt_eq_toNat_of_lt hlow, toNat_shiftLeft_ushiftRight x hk]
  exact_mod_cast hmod.symm

end Shifts

namespace DType

/-- What a lane keeps of the word `v`, by shifts of the word. -/
def wrapByShifts (d : DType) (v : Int64) : Int64 :=
  if d.isBool then
    if v = 0 then 0 else 1
  else if !d.isIntegral || 64 ≤ d.bits then v
  else
    let above := 64 - d.bits.toNat
    match d.code with
    | .int => .ofBitVec ((v.toBitVec <<< above).sshiftRight above)
    | _ => .ofBitVec ((v.toBitVec <<< above) >>> above)

example : (int 8).wrapByShifts 300 = 44 ∧ (int 8).wrapByShifts 128 = -128 ∧
    (uint 8).wrapByShifts (-1) = 255 ∧ (uint 64).wrapByShifts (-1) = -1 := by decide

variable {d t : DType} {u v : Int64}

/-! ### Classes of types -/

theorem isBool_eq_false_of_isIntegral_eq_false (h : d.isIntegral = false) : d.isBool = false := by
  refine Bool.eq_false_iff.mpr fun hb => Bool.false_ne_true (h.symm.trans ?_)
  rw [isIntegral, isUInt_of_isBool hb, Bool.or_true]

theorem isBool_eq_false_of_bits_eq (h : d.bits = 64) : d.isBool = false := by
  refine Bool.eq_false_iff.mpr fun hb => ?_
  have h1 : d.bits = 1 := (isBool_iff.mp hb).2
  exact absurd (h.symm.trans h1) (by decide)

/-- Floats, handles and the widest integers keep the word as it is. -/
theorem wrap_eq_self (h : d.isIntegral = false ∨ d.bits = 64) (v : Int64) : d.wrap v = v := by
  have hb : ¬ d.isBool := Bool.eq_false_iff.mp
    (h.elim isBool_eq_false_of_isIntegral_eq_false isBool_eq_false_of_bits_eq)
  rw [wrap, if_neg hb]
  rcases h with h | h
  · split
    · cases hc : d.code with
      | int | uint => simp [isIntegral, isInt, isUInt, hc] at h
      | float | handle => rfl
    · rfl
  · rw [if_neg (by rw [h]; decide)]

theorem wrap_of_isBool (hb : d.isBool) (v : Int64) : d.wrap v = if v = 0 then 0 else 1 := if_pos hb

/-- Below 64 bits the kept word, read with its sign, is the residue. -/
theorem toInt_wrap (hd : d.Valid) (hi : d.isIntegral) (hw : d.bits < 64) (v : Int64) :
    (d.wrap v).toInt = d.residue v.toInt := by
  have hne : ¬ (d.isUInt ∧ d.bits = 64) := fun h => UInt16.lt_irrefl _ (h.2 ▸ hw)
  rw [wrap_eq_ofInt_residue hd hi, (holds_residue hd hi v.toInt).toInt_ofInt hd hne]

/-! ### Shifts -/

theorem wrapByShifts_eq_self (h : d.isIntegral = false ∨ d.bits = 64) (v : Int64) :
    d.wrapByShifts v = v := by
  have hb : ¬ d.isBool := Bool.eq_false_iff.mp
    (h.elim isBool_eq_false_of_isIntegral_eq_false isBool_eq_false_of_bits_eq)
  have hkeep : !d.isIntegral || 64 ≤ d.bits := by
    rcases h with h | h
    · rw [h]
      rfl
    · rw [h]
      exact Bool.or_true _
  rw [wrapByShifts, if_neg hb, if_pos hkeep]

/-- Shifting the word keeps its residue. -/
theorem toInt_wrapByShifts (hd : d.Valid) (hi : d.isIntegral) (hb : d.isBool = false)
    (hw : d.bits < 64) (v : Int64) : (d.wrapByShifts v).toInt = d.residue v.toInt := by
  obtain ⟨hpos, -⟩ := hd.bits_bounds
  have hlt : d.bits.toNat < 64 := UInt16.lt_iff_toNat_lt.mp hw
  have habove : 64 - (64 - d.bits.toNat) = d.bits.toNat := by omega
  have hkeep : ¬ (!d.isIntegral || 64 ≤ d.bits) := by
    simpa [hi] using UInt16.not_le.mpr hw
  rw [wrapByShifts, if_neg (Bool.eq_false_iff.mp hb), if_neg hkeep]
  rcases isInt_or_isUInt hi with hint | hu
  · have hc : d.code = .int := isInt_iff.mp hint
    simp only [hc]
    rw [residue_of_isInt hint, Int64.toInt_ofBitVec, toInt_shiftLeft_sshiftRight _ (by omega),
      habove, Int64.toInt_toBitVec]
  · have hc : d.code = .uint := isUInt_iff.mp hu
    simp only [hc]
    rw [residue_of_isUInt hb hu, Int64.toInt_ofBitVec,
      toInt_shiftLeft_ushiftRight _ (by omega) (by omega), habove, Int64.toInt_toBitVec]

/-- **The residue by two shifts.** -/
theorem wrap_eq_wrapByShifts (hd : d.Valid) (v : Int64) : d.wrap v = d.wrapByShifts v := by
  by_cases hself : d.isIntegral = false ∨ d.bits = 64
  · rw [wrap_eq_self hself, wrapByShifts_eq_self hself]
  · obtain ⟨hi, h64⟩ := not_or.mp hself
    rw [Bool.not_eq_false] at hi
    have hw : d.bits < 64 := by
      have hle := hd.bits_bounds.2
      have hne : d.bits.toNat ≠ 64 := fun h => h64 (UInt16.toNat_inj.mp h)
      exact UInt16.lt_iff_toNat_lt.mpr (lt_of_le_of_ne hle hne)
    by_cases hb : d.isBool
    · rw [wrap_of_isBool hb, wrapByShifts, if_pos hb]
    · apply Int64.toInt.inj
      rw [toInt_wrap hd hi hw, toInt_wrapByShifts hd hi (Bool.eq_false_iff.mpr hb) hw]

/-! ### Congruence -/

/-- Words wrap to the same one just when they agree in the bits that are kept. -/
theorem wrap_eq_wrap_iff (hd : d.Valid) (hi : d.isIntegral) (hb : d.isBool = false) :
    d.wrap u = d.wrap v ↔ u.toInt ≡ v.toInt [ZMOD 2 ^ d.bits.toNat] := by
  constructor
  · intro h
    have hres : d.residue u.toInt = d.residue v.toInt := by
      rw [← denote_wrap_eq_residue hd hi, h, denote_wrap_eq_residue hd hi]
    calc u.toInt ≡ d.residue u.toInt [ZMOD 2 ^ d.bits.toNat] := (residue_modEq hb _).symm
      _ ≡ v.toInt [ZMOD 2 ^ d.bits.toNat] := hres ▸ residue_modEq hb _
  · intro h
    rw [wrap_eq_ofInt_residue hd hi, wrap_eq_ofInt_residue hd hi, residue_congr hb h]

/-- What is kept is congruent to the word. -/
theorem wrap_modEq (hd : d.Valid) (hi : d.isIntegral) (hb : d.isBool = false) (v : Int64) :
    (d.wrap v).toInt ≡ v.toInt [ZMOD 2 ^ d.bits.toNat] :=
  (wrap_eq_wrap_iff hd hi hb).mp (wrap_wrap d v)

/-- A type of no more bits keeps of the kept word what it keeps of the word. -/
theorem wrap_wrap_of_le (hd : d.Valid) (ht : t.Valid) (hdi : d.isIntegral) (hti : t.isIntegral)
    (hdb : d.isBool = false) (htb : t.isBool = false) (h : d.bits ≤ t.bits) (v : Int64) :
    d.wrap (t.wrap v) = d.wrap v := by
  have hdvd : (2 : Int) ^ d.bits.toNat ∣ 2 ^ t.bits.toNat :=
    pow_dvd_pow 2 (UInt16.le_iff_toNat_le.mp h)
  exact (wrap_eq_wrap_iff hd hdi hdb).mpr ((wrap_modEq ht hti htb v).of_dvd hdvd)

theorem wrap_eq_wrap_iff_of_isBool (hb : d.isBool) : d.wrap u = d.wrap v ↔ (u = 0 ↔ v = 0) := by
  rw [wrap_of_isBool hb, wrap_of_isBool hb]
  by_cases hu : u = 0 <;> by_cases hv : v = 0 <;> simp [hu, hv]

/-! ### The kept word -/

/-- **Wrapping is canonical.** A word is wrapped by shifts. A boolean keeps whether it is
zero, a narrower integer the one number of its range that is congruent to it, and any other
type the word itself; what is kept is kept again as it is. Integer types keep congruent words
alike and no others, so that wrapping to a type with no fewer bits first changes nothing.
Booleans go by their own rule: they keep two words alike when both are zero or neither is. -/
theorem wrapping_canonical (hd : d.Valid) :
    (∀ v, d.wrap v = d.wrapByShifts v) ∧
    (d.isBool → ∀ v, d.wrap v = if v = 0 then 0 else 1) ∧
    (d.isIntegral → d.isBool = false → d.bits < 64 → ∀ v n,
      d.Holds n ∧ n ≡ v.toInt [ZMOD 2 ^ d.bits.toNat] ↔ n = (d.wrap v).toInt) ∧
    (d.isIntegral = false ∨ d.bits = 64 → ∀ v, d.wrap v = v) ∧
    (∀ v, d.wrap (d.wrap v) = d.wrap v) ∧
    (d.isIntegral → d.isBool = false → ∀ u v,
      d.wrap u = d.wrap v ↔ u.toInt ≡ v.toInt [ZMOD 2 ^ d.bits.toNat]) ∧
    (d.isBool → ∀ u v, d.wrap u = d.wrap v ↔ (u = 0 ↔ v = 0)) ∧
    ∀ t : DType, t.Valid → t.isIntegral → t.isBool = false → t.bits ≤ d.bits →
      d.isIntegral → d.isBool = false → ∀ v, t.wrap (d.wrap v) = t.wrap v := by
  refine ⟨wrap_eq_wrapByShifts hd, wrap_of_isBool, fun hi hb hw v n => ?_, wrap_eq_self,
    wrap_wrap d, fun hi hb u v => wrap_eq_wrap_iff hd hi hb,
    fun hb u v => wrap_eq_wrap_iff_of_isBool hb,
    fun t ht hti htb hle hi hb => wrap_wrap_of_le ht hd hti hi htb hb hle⟩
  rw [toInt_wrap hd hi hw]
  have hreduces := (reduces_iff hd hi).mpr (rfl : d.residue v.toInt = d.residue v.toInt)
  rw [Reduces, if_neg (Bool.eq_false_iff.mp hb)] at hreduces
  exact hreduces n

/-- The word 300 in a signed byte: 44 by two shifts, and the only number of the range that
is congruent to it; so is 556, and 32 bits without a sign on the way change nothing. A
boolean keeps a one, and a float the word. -/
theorem signed_byte_canonical :
    (int 8).Valid ∧ (int 8).wrap 300 = (int 8).wrapByShifts 300 ∧ (int 8).wrap 300 = 44 ∧
    (∀ n, (int 8).Holds n ∧ n ≡ 300 [ZMOD 2 ^ 8] ↔ n = 44) ∧
    ((int 8).wrap 300 = (int 8).wrap 556 ↔ (300 : Int) ≡ 556 [ZMOD 2 ^ 8]) ∧
    (int 8).wrap ((uint 32).wrap (-300)) = (int 8).wrap (-300) ∧
    (bool 4).wrap 300 = (if (300 : Int64) = 0 then 0 else 1) ∧
    ((bool 4).wrap 300 = (bool 4).wrap 0 ↔ ((300 : Int64) = 0 ↔ (0 : Int64) = 0)) ∧
    (float 32).wrap 300 = 300 ∧ (uint 64).wrap (-1) = -1 := by
  obtain ⟨hshifts, -, hrange, -, -, hcongr, -⟩ :=
    wrapping_canonical (by decide : (int 8).Valid)
  obtain ⟨-, -, -, -, -, -, -, hdetour⟩ := wrapping_canonical (by decide : (uint 32).Valid)
  obtain ⟨-, hbool, -, -, -, -, hzero, -⟩ := wrapping_canonical (by decide : (bool 4).Valid)
  obtain ⟨-, -, -, hfloat, -⟩ := wrapping_canonical (by decide : (float 32).Valid)
  obtain ⟨-, -, -, hwide, -⟩ := wrapping_canonical (by decide : (uint 64).Valid)
  exact ⟨by decide, hshifts 300, by decide, hrange rfl rfl (by decide) 300,
    hcongr rfl rfl 300 556, hdetour (int 8) (by decide) rfl rfl (by decide) rfl rfl (-300),
    hbool rfl 300, hzero rfl 300 0, hfloat (.inl rfl) 300, hwide (.inr rfl) (-1)⟩

end DType

end Lanewise
