/-
# Floats cast to integers

A float literal that is cast to an integer type is written anew, as the integer
towards zero. On its way that integer is a signed word of 64 bits, whatever the
type, and a word that it does not fit ends at `2 ^ 63 - 1`. Below `2 ^ 63` the
integer is therefore kept by every type that has it; from there on `uint64` is
the only type that has it, and does not get it.

Key definitions: `towardZero`.
Key theorems: `Binary64.wholePart_eq_floor`, `Binary64.toInt64_eq_clamp`,
`cast_keeps_whole_part_iff`.
-/
import Lanewise.Proofs.Conversion
import Lanewise.Proofs.Integers
import Lanewise.Proofs.Nearest
import Lanewise.Proofs.Reachable
import Mathlib.Data.Rat.Floor

namespace Lanewise

/-! ### The integer towards zero -/

/-- The number without its fraction. -/
def towardZero (q : ℚ) : Int := if 0 ≤ q then ⌊q⌋ else ⌈q⌉

theorem towardZero_intCast (n : Int) : towardZero n = n := by
  rw [towardZero, Int.floor_intCast, Int.ceil_intCast, ite_self]

namespace Binary64

variable {x : Binary64} {q p : ℚ}

/-- The sign is put aside before the fraction is cut off. -/
theorem towardZero_sign_mul (negative : Bool) (hp : 0 ≤ p) :
    towardZero (sign negative * p) = if negative then -⌊p⌋ else ⌊p⌋ := by
  cases negative with
  | false =>
    rw [sign, if_neg Bool.false_ne_true, one_mul, towardZero, if_pos hp]
    rfl
  | true =>
    rw [sign, if_pos rfl, neg_one_mul, towardZero, if_pos rfl]
    rcases hp.eq_or_lt with rfl | hpos
    · simp
    · rw [if_neg (by linarith), Int.ceil_neg]

/-- The shift by the exponent drops what is after the point. -/
theorem wholePart_eq_floor (m : Nat) (e : Int) : (wholePart m e : Int) = ⌊(m : ℚ) * 2 ^ e⌋ := by
  have hpow : (m : ℚ) * 2 ^ e =
      ((m * 2 ^ e.toNat : Nat) : ℚ) / ((2 ^ (-e).toNat : Nat) : ℚ) := by
    have he : e = (e.toNat : Int) - ((-e).toNat : Int) := by omega
    conv_lhs => rw [he, zpow_sub₀ two_ne_zero, zpow_natCast, zpow_natCast]
    push_cast
    ring
  rw [hpow, Rat.floor_natCast_div_natCast, wholePart, Nat.pow_eq, Nat.pow_eq]
  push_cast
  rfl

/-- A finite double becomes the integer towards zero, within the ends of the
signed words. -/
theorem toInt64_eq_clamp (h : x.value? = some q) :
    x.toInt64 = Int64.ofIntClamp (towardZero q) := by
  unfold value? at h
  unfold toInt64
  cases hx : x.reading with
  | nan | infinite =>
    rw [hx] at h
    cases h
  | finite negative m e =>
    rw [hx] at h
    cases h
    have hp : (0 : ℚ) ≤ m * 2 ^ e := by positivity
    simp only [towardZero_sign_mul negative hp, wholePart_eq_floor]

end Binary64

/-! ### Words that are too small -/

theorem ofIntClamp_of_lt {n : Int} (h1 : -2 ^ 63 ≤ n) (h2 : n < 2 ^ 63) :
    Int64.ofIntClamp n = .ofInt n := by
  apply Int64.toInt.inj
  rw [Int64.toInt_ofInt_of_le h1 h2]
  exact Int64.toInt_ofIntClamp h1 (Int.lt_add_one_iff.mp h2)

theorem ofIntClamp_of_ge {n : Int} (h : 2 ^ 63 ≤ n) : Int64.ofIntClamp n = Int64.maxValue := by
  unfold Int64.ofIntClamp
  have hmin : Int64.minValue.toInt ≤ n := by
    have : Int64.minValue.toInt = -2 ^ 63 := rfl
    omega
  have hmax : ¬ n ≤ Int64.maxValue.toInt := by
    have : Int64.maxValue.toInt = 2 ^ 63 - 1 := rfl
    omega
  rw [dif_pos hmin, dif_neg hmax]

namespace DType

variable {d : DType} {n : Int}

/-- Only one lane type has the numbers from `2 ^ 63` on. -/
theorem Holds.element_eq (hd : d.Valid) (h : d.Holds n) (hn : 2 ^ 63 ≤ n) :
    d.element = .uint 64 := by
  by_contra hne
  refine absurd hn (not_le.mpr ((h.bounds hd).2.2 fun hu => hne ?_))
  have hc : d.code = .uint := isUInt_iff.mp hu.1
  rw [element, withLanes, hc, hu.2]
  rfl

theorem denote_wrap_ofIntClamp_of_lt (hd : d.Valid) (h : d.Holds n) (hn : n < 2 ^ 63) :
    d.denote (d.wrap (Int64.ofIntClamp n)) = n := by
  rw [ofIntClamp_of_lt (h.bounds hd).1 hn]
  exact denote_wrap hd h

theorem denote_wrap_ofIntClamp_of_ge (hd : d.Valid) (h : d.Holds n) (hs : d.isScalar)
    (hn : 2 ^ 63 ≤ n) : d.denote (d.wrap (Int64.ofIntClamp n)) = 2 ^ 63 - 1 := by
  have hu : d = .uint 64 := (element_eq_self hs).symm.trans (h.element_eq hd hn)
  rw [ofIntClamp_of_ge hn, hu]
  rfl

end DType

/-! ### The cast -/

open Build Lanewise.Expr

variable {x : Binary64} {d : DType} {q : ℚ}

theorem ofScalar_float64 {i : NodeInfo} (hf : i.dtype.isFloat = false)
    (hb : i.dtype.isBool = false) :
    ofScalar i (.float64 x) = .intImm i (i.dtype.wrap x.toInt64) := by
  rw [ofScalar, hf, hb]
  rfl

/-- **A float that is cast to an integer keeps its whole part below `2 ^ 63`.**
For a finite float literal of a run and an integer type, no `bool`, that has the
whole part of it, the cast succeeds with an integer literal over the lanes of
the type. The literal denotes the whole part exactly when that is below
`2 ^ 63`; if not, the lane type is `uint64` and the literal denotes `2 ^ 63 - 1`. -/
theorem cast_keeps_whole_part_iff {w : World} (h : Reachable w) {i : NodeInfo}
    (hx : w.Has (.floatImm i x)) (hq : x.value? = some q) (hd : d.Valid)
    (hb : d.isBool = false) (hn : d.Holds (towardZero q)) (s : Session) :
    ∃ e s' j v, Yields (cast (.floatImm i x) d) s e s' ∧ Spread d (.intImm j v) e ∧
      (d.isScalar → e = .intImm j v) ∧ j.dtype = d.element ∧
      (j.dtype.denote v = towardZero q ↔ towardZero q < 2 ^ 63) ∧
      (2 ^ 63 ≤ towardZero q → d.element = .uint 64 ∧ j.dtype.denote v = 2 ^ 63 - 1) := by
  obtain ⟨-, hs, hf⟩ : (floatImm i x).NodeTyped := h.nodeTyped hx
  have hdf : d.isFloat = false := DType.isFloat_of_isIntegral hn.isIntegral
  have hne : (floatImm i x).dtype.element ≠ d.element := fun he =>
    absurd (hf.symm.trans ((DType.isFloat_eq he).trans hdf)) Bool.false_ne_true.symm
  obtain ⟨e, s', j, hrun, hj, hsp⟩ :=
    exists_cast_literal (e := .floatImm i x) hs rfl
      (DType.isHandle_of_isIntegral hn.isIntegral) hne s
  rw [ofScalar_float64 (hj ▸ hdf) (hj ▸ hb), Binary64.toInt64_eq_clamp hq] at hsp
  refine ⟨e, s', j, _, hrun, hsp, fun hds => hsp.eq_of_lanes ?_, hj, ?_⟩
  · exact congrArg DType.lanes (hj.trans (DType.element_eq_self hds))
  · have hnj : j.dtype.Holds (towardZero q) := hj ▸ hn
    have hdj : j.dtype.Valid := hj ▸ hd.element
    by_cases hlt : towardZero q < 2 ^ 63
    · have hkept := DType.denote_wrap_ofIntClamp_of_lt hdj hnj hlt
      exact ⟨iff_of_true hkept hlt, fun hge => absurd hlt (not_lt.mpr hge)⟩
    · have hge : 2 ^ 63 ≤ towardZero q := not_lt.mp hlt
      have hlost := DType.denote_wrap_ofIntClamp_of_ge hdj hnj (hj ▸ rfl) hge
      exact ⟨iff_of_false (by omega) hlt, fun _ => ⟨hn.element_eq hd hge, hlost⟩⟩

namespace World

/-- The literals `2 ^ 63 - 1024` and `2 ^ 63`, neighbours among the doubles. -/
def neighbours : World :=
  (({} : World).perform (.constant (.float64 ⟨0x43dfffffffffffff⟩))).perform
    (.constant (.float64 ⟨0x43e0000000000000⟩))

/-- The largest double below `2 ^ 63`. -/
def belowHalf : Expr := .floatImm ⟨0, .float 64⟩ ⟨0x43dfffffffffffff⟩

/-- The double `2 ^ 63`. -/
def floatHalf : Expr := .floatImm ⟨1, .float 64⟩ ⟨0x43e0000000000000⟩

theorem reachable_neighbours : Reachable neighbours :=
  (Reachable.start.perform (.constant (.float64 ⟨0x43dfffffffffffff⟩)) (List.forall_mem_nil _)
    (List.forall_mem_nil _)).perform (.constant (.float64 ⟨0x43e0000000000000⟩))
    (List.forall_mem_nil _) (List.forall_mem_nil _)

theorem neighbours_has_belowHalf : neighbours.Has belowHalf := ⟨_, .tail _ (.head _), .root⟩

theorem neighbours_has_floatHalf : neighbours.Has floatHalf := ⟨_, .head _, .root⟩

theorem value?_belowHalf :
    (⟨0x43dfffffffffffff⟩ : Binary64).value? = some ((2 ^ 63 - 1024 : Int) : ℚ) := by
  have hr : (⟨0x43dfffffffffffff⟩ : Binary64).reading = .finite false (2 ^ 53 - 1) 10 := by decide
  rw [Binary64.value?, hr, Binary64.Reading.value?]
  norm_num [Binary64.sign]

theorem value?_floatHalf :
    (⟨0x43e0000000000000⟩ : Binary64).value? = some ((2 ^ 63 : Int) : ℚ) := by
  have hr : (⟨0x43e0000000000000⟩ : Binary64).reading = .finite false (2 ^ 52) 11 := by decide
  rw [Binary64.value?, hr, Binary64.Reading.value?]
  norm_num [Binary64.sign]

end World

/-- The lower neighbour is cast to `uint64`. -/
theorem belowHalf_kept : Reachable World.neighbours ∧ World.neighbours.Has World.belowHalf ∧
    (⟨0x43dfffffffffffff⟩ : Binary64).value? = some ((2 ^ 63 - 1024 : Int) : ℚ) ∧
    (DType.uint 64).Valid ∧ (DType.uint 64).isBool = false ∧
    (DType.uint 64).Holds (towardZero ((2 ^ 63 - 1024 : Int) : ℚ)) ∧ ∀ s,
    ∃ s' j v, Yields (cast World.belowHalf (.uint 64)) s (.intImm j v) s' ∧
      j.dtype = .uint 64 ∧ j.dtype.denote v = 2 ^ 63 - 1024 := by
  have hn : (DType.uint 64).Holds (towardZero ((2 ^ 63 - 1024 : Int) : ℚ)) := by
    rw [towardZero_intCast]
    exact ⟨by decide, by decide⟩
  refine ⟨World.reachable_neighbours, World.neighbours_has_belowHalf, World.value?_belowHalf,
    by decide, by decide, hn, fun s => ?_⟩
  obtain ⟨e, s', j, v, hrun, -, hscalar, hj, hkept, -⟩ :=
    cast_keeps_whole_part_iff World.reachable_neighbours World.neighbours_has_belowHalf
      World.value?_belowHalf (by decide) (by decide) hn s
  rw [hscalar rfl] at hrun
  rw [towardZero_intCast] at hkept
  exact ⟨s', j, v, hrun, hj, hkept.mpr (by decide)⟩

/-- The upper neighbour is a number of `uint64` and is not kept by it. -/
theorem floatHalf_not_kept : World.neighbours.Has World.floatHalf ∧
    (⟨0x43e0000000000000⟩ : Binary64).value? = some ((2 ^ 63 : Int) : ℚ) ∧
    (DType.uint 64).Holds (towardZero ((2 ^ 63 : Int) : ℚ)) ∧
    ∃ s' j v, Yields (cast World.floatHalf (.uint 64)) {} (.intImm j v) s' ∧
      j.dtype = .uint 64 ∧ j.dtype.denote v = 2 ^ 63 - 1 ∧
      j.dtype.denote v ≠ towardZero ((2 ^ 63 : Int) : ℚ) := by
  rw [towardZero_intCast]
  exact ⟨World.neighbours_has_floatHalf, World.value?_floatHalf, ⟨by decide, by decide⟩,
    _, _, _, rfl, rfl, rfl, by decide⟩

end Lanewise
