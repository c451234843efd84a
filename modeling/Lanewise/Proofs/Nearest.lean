/-
# The nearest double

What a word stands for is a rational number, and the word made of an integer of
64 bits is the double nearest to it: no finite double is nearer, and where
another one is as near, the fraction of the word is even. Doubles that are at
least as large as the highest power of two in the integer lie on the grid on
which its mantissa is rounded; all smaller ones are further off.

Key definitions: `Binary64.value?`, `Binary64.Nearest`.
Key theorems: `divNearestEven_nearest`, `Binary64.exists_grid`, `Binary64.nearest_ofInt`,
`Binary64.Nearest.le`, `Binary64.value?_ofInt_le`.
-/
import Lanewise.Proofs.Rounding
import Mathlib.Algebra.Order.Field.Power
import Mathlib.Algebra.Order.Ring.Abs
import Mathlib.Data.Rat.Cast.Order
import Mathlib.Tactic.FieldSimp
import Mathlib.Tactic.Linarith
import Mathlib.Tactic.Positivity
import Mathlib.Tactic.Ring

namespace Lanewise

/-! ### Rounding a quotient -/

/-- A multiple of `d` is at most `q - 1`, `q`, `q + 1` or at least `q + 2` times `d`. -/
theorem mul_cases (j q d : Int) (hd : 0 < d) :
    j * d ≤ q * d - d ∨ j = q ∨ j = q + 1 ∨ q * d + 2 * d ≤ j * d := by
  rcases lt_or_ge j q with h | h
  · left
    have := Int.mul_le_mul_of_nonneg_right (show j ≤ q - 1 by omega) hd.le
    rwa [Int.sub_mul, Int.one_mul] at this
  · rcases lt_or_ge (q + 1) j with h' | h'
    · right; right; right
      have := Int.mul_le_mul_of_nonneg_right (show q + 2 ≤ j by omega) hd.le
      rwa [Int.add_mul] at this
    · omega

theorem divNearestEven_cases (n d : Nat) :
    divNearestEven n d = n / d ∧ 2 * (n % d) ≤ d ∧ (2 * (n % d) = d → n / d % 2 = 0) ∨
      divNearestEven n d = n / d + 1 ∧ d ≤ 2 * (n % d) ∧
        (2 * (n % d) = d → (n / d + 1) % 2 = 0) := by
  unfold divNearestEven
  simp only
  split
  · exact .inl ⟨rfl, by omega⟩
  · split
    · exact .inr ⟨rfl, by omega⟩
    · rcases Nat.mod_two_eq_zero_or_one (n / d) with h | h
      · exact .inl ⟨by omega, by omega⟩
      · exact .inr ⟨by omega, by omega⟩

/-- No multiple of the divisor is nearer to the dividend, and of two that are as
near the even one is taken. -/
theorem divNearestEven_nearest (n : Nat) {d : Nat} (hd : 0 < d) (j : Int) :
    ((divNearestEven n d : Int) * d - n).natAbs ≤ (j * d - n).natAbs ∧
      (((divNearestEven n d : Int) * d - n).natAbs = (j * d - n).natAbs →
        (divNearestEven n d : Int) = j ∨ divNearestEven n d % 2 = 0) := by
  have hsplit : (n : Int) = (n / d : Nat) * d + (n % d : Nat) := by
    have := Nat.div_add_mod' n d
    exact_mod_cast this.symm
  have hr : n % d < d := Nat.mod_lt n hd
  have hj := mul_cases j (n / d : Nat) d (by exact_mod_cast hd)
  have hj1 : j = (n / d : Nat) + 1 → j * d = (n / d : Nat) * d + d := fun h => by
    rw [h, Int.add_mul, Int.one_mul]
  have hj0 : j = (n / d : Nat) → j * d = (n / d : Nat) * d := fun h => by rw [h]
  have hnext : (((n / d + 1 : Nat) : Int)) * d = (n / d : Nat) * d + d := by
    rw [Nat.cast_succ, Int.add_mul, Int.one_mul]
  rcases divNearestEven_cases n d with ⟨hq, hle, htie⟩ | ⟨hq, hle, htie⟩ <;> rw [hq]
  · generalize ((n / d : Nat) : Int) * d = X at *
    omega
  · rw [hnext]
    generalize ((n / d : Nat) : Int) * d = X at *
    omega

namespace Binary64

/-! ### Values -/

/-- The factor that the sign bit stands for. -/
def sign (negative : Bool) : ℚ := if negative then -1 else 1

/-- The number that is read, if it is one. -/
def Reading.value? : Reading → Option ℚ
  | .finite negative m e => some (sign negative * (m * 2 ^ e))
  | .infinite _ | .nan => none

/-- The number that a finite word stands for. -/
def value? (x : Binary64) : Option ℚ := x.reading.value?

/-- `x` is the double nearest to `q`, with an even fraction where another is as near. -/
def Nearest (x : Binary64) (q : ℚ) : Prop :=
  ∃ u, x.value? = some u ∧ ∀ (y : Binary64) v, y.value? = some v →
    |u - q| ≤ |v - q| ∧ (|u - q| = |v - q| → u = v ∨ x.fraction % 2 = 0)

/-- The rational is a mantissa of 53 bits, scaled. -/
def Representable (v : ℚ) : Prop :=
  ∃ (negative : Bool) (m : Nat) (e : Int), m < 2 ^ 53 ∧ v = sign negative * (m * 2 ^ e)

theorem sign_not (negative : Bool) : sign (!negative) = -sign negative := by
  cases negative <;> simp [sign]

theorem abs_sign (negative : Bool) : |sign negative| = 1 := by
  cases negative <;> simp [sign]

theorem Representable.neg {v : ℚ} (h : Representable v) : Representable (-v) := by
  obtain ⟨negative, m, e, hm, rfl⟩ := h
  exact ⟨!negative, m, e, hm, by rw [sign_not]; ring⟩

theorem representable_of_value? {y : Binary64} {v : ℚ} (h : y.value? = some v) :
    Representable v := by
  have hf : y.fraction < 2 ^ 52 := by
    rw [fraction, Nat.pow_eq]
    exact Nat.mod_lt _ (by decide)
  unfold value? reading at h
  split at h
  · split at h <;> cases h
  · split at h
    · cases h
      exact ⟨_, _, _, by omega, rfl⟩
    · cases h
      exact ⟨_, _, _, by rw [Nat.pow_eq]; omega, rfl⟩

/-! ### The grid -/

/-- A number of 53 bits that is at least `2 ^ k` is a multiple of `2 ^ (k - 52)`. -/
theorem exists_grid {v : ℚ} {k : Int} (hv : Representable v) (hk : 2 ^ k ≤ v) :
    ∃ j : Int, v = j * 2 ^ (k - 52) := by
  obtain ⟨negative, m, e, hm, rfl⟩ := hv
  have hpos : (0 : ℚ) < 2 ^ k := by positivity
  have hme : (0 : ℚ) ≤ m * 2 ^ e := by positivity
  cases negative with
  | true =>
    have hneg : sign true * (m * 2 ^ e) ≤ 0 := by simp only [sign, if_true]; linarith
    linarith
  | false =>
    have hv : sign false * (m * 2 ^ e) = (m : ℚ) * 2 ^ e := by simp [sign]
    rw [hv] at hk ⊢
    have hlt : (2 : ℚ) ^ k < 2 ^ (53 + e) := by
      have hm' : (m : ℚ) < 2 ^ (53 : Int) := by exact_mod_cast hm
      calc (2 : ℚ) ^ k ≤ m * 2 ^ e := hk
        _ < 2 ^ (53 : Int) * 2 ^ e := by
          exact mul_lt_mul_of_pos_right hm' (by positivity)
        _ = 2 ^ (53 + e) := (zpow_add₀ two_ne_zero _ _).symm
    have hke : k < 53 + e := (zpow_lt_zpow_iff_right₀ one_lt_two).mp hlt
    obtain ⟨t, ht⟩ : ∃ t : Nat, e = t + (k - 52) := ⟨(e - (k - 52)).toNat, by omega⟩
    refine ⟨m * 2 ^ t, ?_⟩
    rw [ht, zpow_add₀ two_ne_zero, zpow_natCast]
    push_cast
    ring

/-! ### The double of an integer -/

theorem grid_eq (k : Nat) : (2 : ℚ) ^ ((k : Int) - 52) = 2 ^ k / 2 ^ 52 := by
  rw [zpow_sub₀ two_ne_zero, zpow_natCast]
  rfl

/-- Distances from `n` on the grid are those of multiples of `2 ^ k` from `n * 2 ^ 52`. -/
theorem abs_grid_sub (j : Int) (k n : Nat) :
    |(j : ℚ) * 2 ^ ((k : Int) - 52) - n| =
      ((j * (2 ^ k : Nat) - (n * 2 ^ 52 : Nat)).natAbs : ℚ) / 2 ^ 52 := by
  have hscale : (j : ℚ) * 2 ^ ((k : Int) - 52) - n =
      ((j * (2 ^ k : Nat) - (n * 2 ^ 52 : Nat) : Int) : ℚ) / 2 ^ 52 := by
    rw [grid_eq, eq_div_iff (by positivity)]
    push_cast
    ring
  rw [hscale, abs_div, Nat.cast_natAbs, Int.cast_abs,
    abs_of_pos (show (0 : ℚ) < 2 ^ 52 by positivity)]

/-- The mantissa of `n` on the grid of its highest power of two. -/
def mantissa (n : Nat) : Nat := divNearestEven (n * 2 ^ 52) (2 ^ n.log2)

/-- What the mantissa of `n` stands for. -/
def rounded (n : Nat) : ℚ := mantissa n * 2 ^ ((n.log2 : Int) - 52)

theorem mantissa_bounds {n : Nat} (hn : n ≠ 0) : 2 ^ 52 ≤ mantissa n ∧ mantissa n ≤ 2 ^ 53 := by
  have hlow : 2 ^ n.log2 ≤ n := Nat.log2_self_le hn
  have hhigh : n < 2 ^ (n.log2 + 1) := Nat.lt_log2_self
  constructor
  · have hq : 2 ^ 52 ≤ n * 2 ^ 52 / 2 ^ n.log2 := by
      rw [Nat.le_div_iff_mul_le (Nat.two_pow_pos _), Nat.mul_comm]
      exact Nat.mul_le_mul_right _ hlow
    rcases divNearestEven_cases (n * 2 ^ 52) (2 ^ n.log2) with ⟨h, -⟩ | ⟨h, -⟩ <;>
      rw [mantissa, h] <;> omega
  · have hm : n * 2 ^ 52 < 2 * 2 ^ 52 * 2 ^ n.log2 := by
      rw [Nat.pow_succ] at hhigh
      omega
    exact divNearestEven_le hm

theorem magnitudeOfNat_eq {n : Nat} (hn : n ≠ 0) :
    magnitudeOfNat n = (n.log2 + 1022) * 2 ^ 52 + mantissa n := by
  rw [magnitudeOfNat, if_neg hn]
  rfl

/-- What the word of `n` stands for, a carry out of the mantissa included. -/
theorem value?_magnitudeOfNat (negative : Bool) {n : Nat} (hn : n ≠ 0) (h : n < 2 ^ 64) :
    (ofMagnitude negative (magnitudeOfNat n)).value? =
      some (sign negative * rounded n) := by
  obtain ⟨hlow, hhigh⟩ := mantissa_bounds hn
  have hlt : magnitudeOfNat n < 2047 * 2 ^ 52 := magnitudeOfNat_lt h
  have hexp := exponentField_ofMagnitude negative (m := magnitudeOfNat n) (by omega)
  have hfrac := fraction_ofMagnitude negative (m := magnitudeOfNat n) (by omega)
  have hneg := isNegative_ofMagnitude negative (m := magnitudeOfNat n) (by omega)
  rw [magnitudeOfNat_eq hn] at hlt hexp hfrac hneg ⊢
  generalize hx : ofMagnitude negative _ = x at *
  have hexp0 : x.exponentField ≠ 2047 := by omega
  have hexp1 : x.exponentField ≠ 0 := by omega
  unfold value? reading
  rw [if_neg hexp0, if_neg hexp1, Reading.value?, hneg, Nat.pow_eq, rounded]
  by_cases hcarry : mantissa n = 2 ^ 53
  · have h1 : (x.exponentField : Int) - 1075 = 1 + ((n.log2 : Int) - 52) := by omega
    have h2 : x.fraction = 0 := by omega
    rw [h1, h2, hcarry, zpow_add₀ two_ne_zero]
    push_cast
    ring_nf
  · have h1 : (x.exponentField : Int) - 1075 = (n.log2 : Int) - 52 := by omega
    have h2 : 2 ^ 52 + x.fraction = mantissa n := by omega
    rw [h1, h2]

/-- No number on the grid is nearer to `n` than its rounded mantissa. -/
theorem rounded_nearest_grid (n : Nat) (j : Int) :
    |rounded n - n| ≤ |(j : ℚ) * 2 ^ ((n.log2 : Int) - 52) - n| ∧
      (|rounded n - n| = |(j : ℚ) * 2 ^ ((n.log2 : Int) - 52) - n| →
        rounded n = j * 2 ^ ((n.log2 : Int) - 52) ∨ mantissa n % 2 = 0) := by
  obtain ⟨hle, htie⟩ := divNearestEven_nearest (n * 2 ^ 52) (Nat.two_pow_pos n.log2) j
  have hrounded : |rounded n - n| =
      (((mantissa n : Int) * (2 ^ n.log2 : Nat) - (n * 2 ^ 52 : Nat)).natAbs : ℚ) / 2 ^ 52 := by
    rw [← abs_grid_sub, rounded, Int.cast_natCast]
  rw [hrounded, abs_grid_sub j n.log2 n]
  refine ⟨?_, fun h => (htie ?_).imp_left fun hj => ?_⟩
  · gcongr
    exact hle
  · have hnat := (div_left_inj' (by positivity)).mp h
    exact_mod_cast hnat
  · rw [rounded, ← hj, mantissa, Int.cast_natCast]

/-- No number of 53 bits is nearer to `n` than its rounded mantissa. -/
theorem rounded_nearest {n : Nat} (hn : n ≠ 0) {v : ℚ} (hv : Representable v) :
    |rounded n - n| ≤ |v - n| ∧
      (|rounded n - n| = |v - n| → rounded n = v ∨ mantissa n % 2 = 0) := by
  have hlow : (2 : ℚ) ^ n.log2 ≤ n := by exact_mod_cast Nat.log2_self_le hn
  rcases le_or_gt ((2 : ℚ) ^ (n.log2 : Int)) v with hk | hk
  · obtain ⟨j, rfl⟩ := exists_grid hv hk
    exact rounded_nearest_grid n j
  · -- the power of two itself is on the grid, and nearer than what is below it
    have hpow : ((2 ^ 52 : Int) : ℚ) * 2 ^ ((n.log2 : Int) - 52) = 2 ^ n.log2 := by
      rw [grid_eq]
      push_cast
      ring
    have hfar : |((2 ^ 52 : Int) : ℚ) * 2 ^ ((n.log2 : Int) - 52) - n| < |v - n| := by
      rw [zpow_natCast] at hk
      rw [hpow, abs_of_nonpos (by linarith), abs_of_neg (by linarith)]
      linarith
    have hlt : |rounded n - n| < |v - n| :=
      lt_of_le_of_lt (rounded_nearest_grid n (2 ^ 52)).1 hfar
    exact ⟨hlt.le, fun h => absurd h hlt.ne⟩

/-! ### Integers -/

variable {m n : Int} {p q u v : ℚ} {x y : Binary64}

/-- A sign is its own inverse. -/
theorem sign_mul_sign (negative : Bool) (q : ℚ) : sign negative * (sign negative * q) = q := by
  cases negative <;> simp [sign]

/-- Distances do not see a sign. -/
theorem abs_sign_mul_sub (negative : Bool) (p q : ℚ) :
    |sign negative * p - q| = |p - sign negative * q| := by
  rw [← one_mul |p - _|, ← abs_sign negative, ← abs_mul, mul_sub, sign_mul_sign]

theorem sign_mul_natAbs (n : Int) : sign (n < 0) * n.natAbs = n := by
  rcases lt_or_ge n 0 with h | h
  · simp [sign, h, abs_of_neg]
  · simp [sign, h.not_gt, abs_of_nonneg h]

theorem Representable.signed (h : Representable v) (negative : Bool) :
    Representable (sign negative * v) := by
  cases negative
  · simpa [sign] using h
  · simpa [sign] using h.neg

theorem fraction_ofInt (hn : n ≠ 0) (h : n.natAbs < 2 ^ 64) :
    (ofInt n).fraction = mantissa n.natAbs % 2 ^ 52 := by
  have hlt : magnitudeOfNat n.natAbs < 2047 * 2 ^ 52 := magnitudeOfNat_lt h
  rw [ofInt, fraction_ofMagnitude _ (by omega), magnitudeOfNat_eq (by omega)]
  omega

theorem value?_zero : (ofInt 0).value? = some 0 := by
  have hr : (ofInt 0).reading = .finite false 0 (-1074) := by decide
  rw [value?, hr, Reading.value?]
  simp

/-- The double of an integer of 64 bits is the nearest one. -/
theorem nearest_ofInt (h : n.natAbs < 2 ^ 64) : (ofInt n).Nearest n := by
  by_cases hn : n = 0
  · subst hn
    refine ⟨0, value?_zero, fun y v _ => ⟨by simp, fun hd => .inl ?_⟩⟩
    have hv : v = 0 := by simpa using hd.symm
    exact hv.symm
  · refine ⟨_, value?_magnitudeOfNat (n < 0) (Int.natAbs_ne_zero.mpr hn) h, fun y v hv => ?_⟩
    obtain ⟨hle, htie⟩ := rounded_nearest (Int.natAbs_ne_zero.mpr hn)
      ((representable_of_value? hv).signed (n < 0))
    rw [abs_sign_mul_sub (n < 0) v, sign_mul_natAbs] at hle htie
    rw [abs_sign_mul_sub (n < 0), ← sign_mul_natAbs n, sign_mul_sign, sign_mul_natAbs]
    refine ⟨hle, fun hd => (htie hd).imp (fun hv => ?_) fun heven => ?_⟩
    · rw [hv, sign_mul_sign]
    · rw [fraction_ofInt hn h]
      omega

theorem isNegative_ofInt (h : n.natAbs < 2 ^ 64) : (ofInt n).isNegative = decide (n < 0) := by
  have hlt : magnitudeOfNat n.natAbs < 2047 * 2 ^ 52 := magnitudeOfNat_lt h
  exact isNegative_ofMagnitude _ (by omega)

/-! ### Order -/

/-- What is nearer to the larger number is at least halfway there. -/
theorem add_le_of_abs_sub_le (huv : v < u) (h : |u - p| ≤ |v - p|) : u + v ≤ 2 * p := by
  have hsq : (u - p) ^ 2 ≤ (v - p) ^ 2 := sq_le_sq.mpr h
  by_contra hlt
  have hpos : 0 < (u - v) * (u + v - 2 * p) := mul_pos (by linarith) (by linarith)
  linarith [show (u - p) ^ 2 - (v - p) ^ 2 = (u - v) * (u + v - 2 * p) by ring]

theorem le_add_of_abs_sub_le (huv : v < u) (h : |v - q| ≤ |u - q|) : 2 * q ≤ u + v := by
  have h' : |-v - -q| ≤ |-u - -q| := by
    rwa [neg_sub_neg, neg_sub_neg, abs_sub_comm q, abs_sub_comm q]
  linarith [add_le_of_abs_sub_le (neg_lt_neg huv) h']

/-- Rounding keeps the order of two different numbers. -/
theorem Nearest.le (hx : x.Nearest p) (hy : y.Nearest q) (hpq : p < q) (hu : x.value? = some u)
    (hv : y.value? = some v) : u ≤ v := by
  obtain ⟨u', hu', hnear⟩ := hx
  obtain ⟨v', hv', hnear'⟩ := hy
  cases hu.symm.trans hu'
  cases hv.symm.trans hv'
  by_contra hlt
  have h1 : u + v ≤ 2 * p := add_le_of_abs_sub_le (not_le.mp hlt) (hnear y v hv).1
  have h2 : 2 * q ≤ u + v := le_add_of_abs_sub_le (not_le.mp hlt) (hnear' x u hu).1
  linarith

/-- The double of an integer is monotone in the integer. -/
theorem value?_ofInt_le (hmn : m ≤ n) (hm : m.natAbs < 2 ^ 64) (hn : n.natAbs < 2 ^ 64)
    (hu : (ofInt m).value? = some u) (hv : (ofInt n).value? = some v) : u ≤ v := by
  rcases hmn.eq_or_lt with rfl | hlt
  · exact (Option.some.inj (hu.symm.trans hv)).le
  · exact (nearest_ofInt hm).le (nearest_ofInt hn) (by exact_mod_cast hlt) hu hv

end Binary64

end Lanewise
