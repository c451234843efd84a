/-
# Lanes, validity and wrapping

What the later modules need of types: a type is its lane type and its lane
count, a valid type stays valid when a scalar is spread over lanes unless it is
a handle, and the integer that a lane keeps is kept again as it is.

Key theorems: `DType.Valid.withLanes`, `DType.wrap_wrap`.
-/
import Lanewise.DType.Checked

namespace Lanewise.DType

/-! ### Lanes -/

/-- A type is its lane type over its lane count. -/
theorem eq_of_element_eq {d e : DType} (h : d.element = e.element) (hl : d.lanes = e.lanes) :
    d = e := by
  calc d = d.element.withLanes d.lanes := rfl
    _ = e.element.withLanes e.lanes := by rw [h, hl]
    _ = e := rfl

theorem isScalar_iff {d : DType} : d.isScalar = true ↔ d.lanes = 1 := by simp [isScalar]

theorem isInt_iff {d : DType} : d.isInt = true ↔ d.code = .int := by simp [isInt]

theorem isUInt_iff {d : DType} : d.isUInt = true ↔ d.code = .uint := by simp [isUInt]

theorem isFloat_iff {d : DType} : d.isFloat = true ↔ d.code = .float := by simp [isFloat]

theorem isHandle_iff {d : DType} : d.isHandle = true ↔ d.code = .handle := by simp [isHandle]

theorem isBool_iff {d : DType} : d.isBool = true ↔ d.code = .uint ∧ d.bits = 1 := by simp [isBool]

/-- Next to a scalar, another lane count is that of no scalar. -/
theorem isScalar_eq_false {d e : DType} (hd : d.isScalar) (h : d.lanes ≠ e.lanes) :
    e.isScalar = false := by
  rw [Bool.eq_false_iff]
  intro he
  exact h ((isScalar_iff.mp hd).trans (isScalar_iff.mp he).symm)

theorem element_eq_self {d : DType} (h : d.isScalar) : d.element = d :=
  eq_of_element_eq rfl (isScalar_iff.mp h).symm

theorem isVector_eq_not_isScalar {d : DType} (h : d.lanes ≠ 0) : d.isVector = !d.isScalar := by
  have h0 : d.lanes.toNat ≠ 0 := fun h' => h (UInt16.toNat_inj.mp h')
  have h1 : d.lanes = 1 ↔ d.lanes.toNat = 1 := UInt16.toNat_inj.symm
  simp only [isVector, isScalar, UInt16.lt_iff_toNat_lt, h1]
  by_cases hn : d.lanes.toNat = 1
  · simp [hn]
  · simp only [hn, decide_false, Bool.not_false, decide_eq_true_eq]
    exact Nat.lt_of_le_of_ne (Nat.pos_of_ne_zero h0) (Ne.symm hn)

/-- The classes of a type are those of its lane type. -/
theorem code_eq_of_element_eq {d e : DType} (h : d.element = e.element) : d.code = e.code :=
  congrArg (·.code) h

theorem isFloat_eq {d e : DType} (h : d.element = e.element) : d.isFloat = e.isFloat := by
  simp only [isFloat, code_eq_of_element_eq h]

theorem isFloat_of_isIntegral {d : DType} (h : d.isIntegral) : d.isFloat = false := by
  cases hc : d.code <;> simp_all [isIntegral, isInt, isUInt, isFloat]

theorem isHandle_of_isIntegral {d : DType} (h : d.isIntegral) : d.isHandle = false := by
  cases hc : d.code <;> simp_all [isIntegral, isInt, isUInt, isHandle]

theorem isHandle_of_isFloat {d : DType} (h : d.isFloat) : d.isHandle = false := by
  cases hc : d.code <;> simp_all [isFloat, isHandle]

theorem isIntegral_of_not_isFloat {d : DType} (hf : ¬ d.isFloat) (hh : d.isHandle = false) :
    d.isIntegral := by
  cases hc : d.code <;> simp_all [isIntegral, isInt, isUInt, isFloat, isHandle]

/-! ### Validity -/

theorem Valid.lanes_ne_zero {d : DType} (h : d.Valid) : d.lanes ≠ 0 := h.2.1

theorem Valid.isVector_eq {d : DType} (h : d.Valid) : d.isVector = !d.isScalar :=
  isVector_eq_not_isScalar h.lanes_ne_zero

theorem Valid.element {d : DType} (h : d.Valid) : d.element.Valid :=
  ⟨h.1, (by decide : (1 : UInt16) ≠ 0), fun _ => rfl⟩

theorem Valid.isScalar_of_isHandle {d : DType} (h : d.Valid) (hh : d.isHandle) : d.isScalar :=
  isScalar_iff.mpr (h.2.2 (isHandle_iff.mp hh))

/-- Any type but a handle comes over any number of lanes. -/
theorem Valid.withLanes {d : DType} {n : UInt16} (h : d.Valid) (hd : d.isHandle = false)
    (hn : n ≠ 0) : (d.withLanes n).Valid := by
  refine ⟨h.1, hn, fun hc => ?_⟩
  rw [isHandle, decide_eq_false_iff_not] at hd
  exact absurd hc hd

theorem bool_valid {n : UInt16} (hn : n ≠ 0) : (bool n).Valid :=
  ⟨(by decide : (1 : UInt16) ∈ TypeCode.widths .uint), hn, fun h => by cases h⟩

theorem handle_valid : handle.Valid := by decide

/-! ### Wrapping -/

theorem emod_of_bmod (x : Int) {n m : Nat} (h : n ∣ m) : x.bmod m % n = x % n := by
  have hd : (n : Int) ∣ m := Int.natCast_dvd_natCast.mpr h
  rw [← Int.emod_emod_of_dvd _ hd, Int.bmod_emod, Int.emod_emod_of_dvd _ hd]

/-- What a lane keeps of an integer it keeps again as it is. -/
theorem wrap_wrap (d : DType) (v : Int64) : d.wrap (d.wrap v) = d.wrap v := by
  unfold wrap
  by_cases hb : d.isBool
  · simp [hb]
  · by_cases hw : d.bits < 64
    · have hdvd : Nat.pow 2 d.bits.toNat ∣ Int64.size := by
        have : d.bits.toNat < 64 := by simpa [UInt16.lt_iff_toNat_lt] using hw
        exact Nat.pow_dvd_pow 2 (Nat.le_of_lt this)
      simp only [hb, hw, Bool.false_eq_true, if_false, if_true]
      cases d.code with
      | int => simp only [Int64.toInt_ofInt, Int.bmod_bmod_of_dvd hdvd, Int.bmod_bmod]
      | uint =>
        have h := emod_of_bmod (v.toInt % Nat.pow 2 d.bits.toNat) hdvd
        simp only [Int64.toInt_ofInt]
        rw [h, Int.emod_emod]
      | float => rfl
      | handle => rfl
    · simp only [hb, hw, Bool.false_eq_true, if_false]

end Lanewise.DType
