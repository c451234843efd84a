/-
# Words and numerals

A text is read from the left, and a word or a numeral ends where the characters
of its class end. So what stands before a rest that does not go on with that
class can be told from the rest (`append_inj_of_stops`). A numeral tells its number, in
base 16 too.

Key definitions: `Text.Stops`, `Text.isWord`, `Text.isIdentifier`.
Key theorems: `Text.append_inj_of_stops`, `Text.span_eq_iff`, `Text.toDigits_inj`,
`Text.toDigits_ofDigitChars`, `Text.repr_append_inj`.
-/
import Mathlib.Data.List.Induction
import Mathlib.Data.List.TakeDrop
import Std.Data.String.ToInt

namespace Lanewise.Text

variable {p q : Char → Bool} {c : Char} {a b r t : List Char}

/-! ### Where a class of characters ends -/

/-- The text does not begin with a character of the class `p`. -/
def Stops (p : Char → Bool) : List Char → Prop
  | [] => True
  | c :: _ => p c = false

theorem Stops.mono (h : Stops p r) (hpq : ∀ c, q c → p c) : Stops q r := by
  cases r with
  | nil => trivial
  | cons c r =>
    have hc : p c = false := h
    show q c = false
    rw [Bool.eq_false_iff] at hc ⊢
    exact fun hq => hc (hpq c hq)

/-- What is all of one class is told from a rest that does not go on with it. -/
theorem append_inj_of_stops (ha : ∀ c ∈ a, p c) (hb : ∀ c ∈ b, p c) (hr : Stops p r)
    (ht : Stops p t) (h : a ++ r = b ++ t) : a = b ∧ r = t := by
  induction a generalizing b with
  | nil =>
    cases b with
    | nil => exact ⟨rfl, h⟩
    | cons d b =>
      rw [List.nil_append] at h
      rw [h] at hr
      have hd : p d := hb d List.mem_cons_self
      exact absurd (hd.symm.trans hr) (by decide)
  | cons c a ih =>
    have hc : p c := ha c List.mem_cons_self
    cases b with
    | nil =>
      rw [List.nil_append] at h
      rw [← h] at ht
      exact absurd (hc.symm.trans ht) (by decide)
    | cons d b =>
      obtain ⟨rfl, htail⟩ := List.cons.inj h
      obtain ⟨rfl, rfl⟩ := ih (fun x hx => ha x (List.mem_cons_of_mem _ hx))
        (fun x hx => hb x (List.mem_cons_of_mem _ hx)) htail
      exact ⟨rfl, rfl⟩

/-- A text is cut where a class of characters ends. -/
theorem span_eq_iff {cs : List Char} :
    cs.span p = (a, r) ↔ cs = a ++ r ∧ (∀ c ∈ a, p c) ∧ Stops p r := by
  rw [List.span_eq_takeWhile_dropWhile, Prod.mk.injEq]
  constructor
  · rintro ⟨rfl, rfl⟩
    refine ⟨List.takeWhile_append_dropWhile.symm, List.all_eq_true.mp List.all_takeWhile, ?_⟩
    have hhead := List.head?_dropWhile_not p cs
    cases h : cs.dropWhile p with
    | nil => trivial
    | cons c r =>
      rw [h] at hhead
      exact hhead
  · rintro ⟨rfl, ha, hr⟩
    have hdrop : r.dropWhile p = r := by
      cases r with
      | nil => rfl
      | cons c r => exact List.dropWhile_cons_of_neg (Bool.eq_false_iff.mp hr)
    have htake : r.takeWhile p = [] := by
      cases r with
      | nil => rfl
      | cons c r => exact List.takeWhile_cons_of_neg (Bool.eq_false_iff.mp hr)
    rw [List.takeWhile_append_of_pos ha, List.dropWhile_append_of_pos ha, hdrop, htake,
      List.append_nil]
    exact ⟨rfl, rfl⟩

/-! ### Words -/

/-- Letters, digits and the underscore, all of ASCII. -/
def isWord (c : Char) : Bool := c.isAlphanum || c = '_'

/-- A character that a name begins with. -/
def isInitial (c : Char) : Bool := c.isAlpha || c = '_'

/-- A word that does not begin with a digit. -/
def isIdentifier : List Char → Bool
  | [] => false
  | c :: cs => isInitial c && cs.all isWord

theorem isWord_of_isInitial (h : isInitial c) : isWord c := by
  unfold isInitial at h
  unfold isWord Char.isAlphanum
  rcases Bool.or_eq_true_iff.mp h with h | h <;> simp [h]

theorem isWord_of_isDigit (h : c.isDigit) : isWord c := by simp [isWord, Char.isAlphanum, h]

theorem not_isInitial_of_isDigit (h : c.isDigit) : isInitial c = false := by
  rw [Bool.eq_false_iff]
  intro hi
  have hdigit : '0'.toNat ≤ c.toNat ∧ c.toNat ≤ '9'.toNat := Char.isDigit_iff_toNat.mp h
  have h9 : '9'.toNat = 57 := rfl
  have hA : 'A'.toNat = 65 := rfl
  have ha : 'a'.toNat = 97 := rfl
  rcases Bool.or_eq_true_iff.mp hi with hi | hi
  · have hletter : (c.isUpper || c.isLower) = true := hi
    rcases Bool.or_eq_true_iff.mp hletter with hu | hl
    · have hle : 'A'.toNat ≤ c.toNat :=
        UInt32.le_iff_toNat_le.mp (of_decide_eq_true hu).1
      omega
    · have hle : 'a'.toNat ≤ c.toNat :=
        UInt32.le_iff_toNat_le.mp (of_decide_eq_true (Bool.and_eq_true_iff.mp hl).1)
      omega
  · obtain rfl : c = '_' := of_decide_eq_true hi
    exact absurd h (by decide)

theorem isWord_of_isIdentifier (h : isIdentifier a) : ∀ c ∈ a, isWord c := by
  cases a with
  | nil => exact fun _ h => (List.not_mem_nil h).elim
  | cons c a =>
    have hc := Bool.and_eq_true_iff.mp h
    exact List.forall_mem_cons.mpr ⟨isWord_of_isInitial hc.1, List.all_eq_true.mp hc.2⟩

theorem isIdentifier_append (ha : isIdentifier a) (hb : ∀ c ∈ b, isWord c) :
    isIdentifier (a ++ b) := by
  cases a with
  | nil => cases ha
  | cons c a =>
    have hc := Bool.and_eq_true_iff.mp ha
    have hb' : b.all isWord := List.all_eq_true.mpr hb
    simp [isIdentifier, hc.1, hc.2, hb']

/-- A name begins with a letter or an underscore. -/
theorem exists_cons_of_isIdentifier (h : isIdentifier a) : ∃ c cs, a = c :: cs ∧ isInitial c := by
  cases a with
  | nil => cases h
  | cons c a => exact ⟨c, a, rfl, (Bool.and_eq_true_iff.mp h).1⟩

/-! ### Numerals -/

theorem isDigit_of_mem_toDigits {n : Nat} (h : c ∈ Nat.toDigits 10 n) : c.isDigit :=
  Nat.isDigit_of_mem_toDigits (by decide) (by decide) h

theorem exists_cons_toDigits (n : Nat) : ∃ c cs, Nat.toDigits 10 n = c :: cs ∧ c.isDigit := by
  obtain ⟨c, cs, hcs⟩ := List.exists_cons_of_ne_nil (Nat.toDigits_ne_nil : Nat.toDigits 10 n ≠ [])
  exact ⟨c, cs, hcs, isDigit_of_mem_toDigits (hcs ▸ List.mem_cons_self)⟩

theorem digitChar_inj {m n : Nat} (hm : m < 16) (hn : n < 16) (h : m.digitChar = n.digitChar) :
    m = n := by
  have hall : ∀ i : Fin 16, ∀ j : Fin 16, i.val.digitChar = j.val.digitChar → i = j := by decide
  exact congrArg Fin.val (hall ⟨m, hm⟩ ⟨n, hn⟩ h)

theorem exists_digitChar_of_mem_toDigits {base n : Nat} (hb : 1 < base)
    (h : c ∈ Nat.toDigits base n) : ∃ d < base, c = d.digitChar := by
  induction n using Nat.strongRecOn with
  | ind n ih =>
    rw [Nat.toDigits_eq_if hb] at h
    by_cases hn : n < base
    · rw [if_pos hn] at h
      exact ⟨n, hn, List.mem_singleton.mp h⟩
    · rw [if_neg hn] at h
      rcases List.mem_append.mp h with h | h
      · exact ih _ (Nat.div_lt_self (by omega) hb) h
      · exact ⟨n % base, Nat.mod_lt n (by omega), List.mem_singleton.mp h⟩

/-- A numeral in a base of at most sixteen tells its number. -/
theorem toDigits_inj {base m n : Nat} (hb : 1 < base) (hb' : base ≤ 16)
    (h : Nat.toDigits base m = Nat.toDigits base n) : m = n := by
  induction m using Nat.strongRecOn generalizing n with
  | ind m ih =>
    rw [Nat.toDigits_eq_if hb, Nat.toDigits_eq_if hb (n := n)] at h
    by_cases hm : m < base
    · by_cases hn : n < base
      · rw [if_pos hm, if_pos hn] at h
        exact digitChar_inj (by omega) (by omega) (List.cons.inj h).1
      · have hlen := congrArg List.length h
        have hpos : 0 < (Nat.toDigits base (n / base)).length := Nat.length_toDigits_pos
        simp only [hm, hn, if_true, if_false, List.length_append, List.length_singleton] at hlen
        omega
    · by_cases hn : n < base
      · have hlen := congrArg List.length h
        have hpos : 0 < (Nat.toDigits base (m / base)).length := Nat.length_toDigits_pos
        simp only [hm, hn, if_true, if_false, List.length_append, List.length_singleton] at hlen
        omega
      · rw [if_neg hm, if_neg hn] at h
        obtain ⟨hdiv, hmod⟩ := List.append_inj' h rfl
        have hm' : m % base < base := Nat.mod_lt m (by omega)
        have hn' : n % base < base := Nat.mod_lt n (by omega)
        have h1 : m / base = n / base := ih _ (Nat.div_lt_self (by omega) hb) hdiv
        have h2 : m % base = n % base :=
          digitChar_inj (by omega) (by omega) (List.cons.inj hmod).1
        rw [← Nat.div_add_mod m base, ← Nat.div_add_mod n base, h1, h2]

theorem digitChar_sub_zero (h : c.isDigit) : (c.toNat - '0'.toNat).digitChar = c := by
  have hdigit : '0'.toNat ≤ c.toNat ∧ c.toNat ≤ '9'.toNat := Char.isDigit_iff_toNat.mp h
  have h0 : '0'.toNat = 48 := rfl
  have h9 : '9'.toNat = 57 := rfl
  have hall : ∀ i : Fin 10, i.val.digitChar = Char.ofNat (i.val + 48) := by decide
  have hi := hall ⟨c.toNat - '0'.toNat, by omega⟩
  have hc : c.toNat - '0'.toNat + 48 = c.toNat := by omega
  rw [hi]
  simp only [hc, Char.ofNat_toNat]

/-- A numeral without a zero in front is the one that the number is written as. -/
theorem toDigits_ofDigitChars (hd : ∀ c ∈ a, c.isDigit) (hne : a ≠ []) (hz : a.head? ≠ some '0') :
    Nat.toDigits 10 (Nat.ofDigitChars 10 a 0) = a := by
  induction a using List.reverseRecOn with
  | nil => exact absurd rfl hne
  | append_singleton a c ih =>
    have hc : c.isDigit := hd c (by simp)
    have hvalue : Nat.ofDigitChars 10 (a ++ [c]) 0 =
        10 * Nat.ofDigitChars 10 a 0 + (c.toNat - '0'.toNat) := Nat.ofDigitChars_append 0
    have hlast : c.toNat - '0'.toNat < 10 := by
      have hdigit : '0'.toNat ≤ c.toNat ∧ c.toNat ≤ '9'.toNat := Char.isDigit_iff_toNat.mp hc
      have h9 : '9'.toNat = '0'.toNat + 9 := rfl
      omega
    have hone : Nat.toDigits 10 (c.toNat - '0'.toNat) = [c] := by
      rw [Nat.toDigits_eq_if (by decide), if_pos hlast, digitChar_sub_zero hc]
    rw [hvalue]
    cases a with
    | nil => rw [Nat.ofDigitChars_nil, Nat.mul_zero, Nat.zero_add, hone, List.nil_append]
    | cons b a =>
      have hfirst := ih (fun x hx => hd x (List.mem_append_left _ hx)) (List.cons_ne_nil _ _) hz
      have hpos : 0 < Nat.ofDigitChars 10 (b :: a) 0 := by
        rw [Nat.pos_iff_ne_zero]
        intro h0
        rw [h0] at hfirst
        exact hz (congrArg List.head? hfirst).symm
      rw [← Nat.toDigits_append_toDigits (by decide) hpos hlast, hfirst, hone]

/-- The text of an integer: a sign and its digits. -/
theorem toList_repr (i : Int) :
    i.repr.toList = (if i < 0 then ['-'] else []) ++ Nat.toDigits 10 i.natAbs := by
  cases i with
  | ofNat n => simp [Int.repr]
  | negSucc n => simp [Int.repr, Int.negSucc_lt_zero]

/-- A numeral is told from a rest that does not go on with a digit. -/
theorem toDigits_append_inj {m n : Nat} (hr : Stops Char.isDigit r) (ht : Stops Char.isDigit t)
    (h : Nat.toDigits 10 m ++ r = Nat.toDigits 10 n ++ t) : m = n ∧ r = t := by
  obtain ⟨hdigits, hrest⟩ := append_inj_of_stops (fun _ => isDigit_of_mem_toDigits)
    (fun _ => isDigit_of_mem_toDigits) hr ht h
  exact ⟨toDigits_inj (by decide) (by decide) hdigits, hrest⟩

/-- Digits do not begin with a sign. -/
theorem toDigits_append_ne_minus (n : Nat) : Nat.toDigits 10 n ++ r ≠ '-' :: t := by
  obtain ⟨c, cs, hcs, hc⟩ := exists_cons_toDigits n
  rw [hcs]
  intro h
  obtain ⟨rfl, -⟩ := List.cons.inj h
  exact absurd hc (by decide)

/-- A numeral ends where the digits end, so it can be read off the front of a text. -/
theorem repr_append_inj {i j : Int} (hr : Stops Char.isDigit r) (ht : Stops Char.isDigit t)
    (h : i.repr.toList ++ r = j.repr.toList ++ t) : i = j ∧ r = t := by
  rw [toList_repr, toList_repr] at h
  by_cases hi : i < 0
  · by_cases hj : j < 0
    · rw [if_pos hi, if_pos hj] at h
      obtain ⟨habs, hrest⟩ := toDigits_append_inj hr ht (List.cons.inj h).2
      exact ⟨by omega, hrest⟩
    · rw [if_pos hi, if_neg hj] at h
      exact absurd h.symm (toDigits_append_ne_minus _)
  · by_cases hj : j < 0
    · rw [if_neg hi, if_pos hj] at h
      exact absurd h (toDigits_append_ne_minus _)
    · rw [if_neg hi, if_neg hj] at h
      obtain ⟨habs, hrest⟩ := toDigits_append_inj hr ht h
      exact ⟨by omega, hrest⟩

/-- An integer begins with its sign or with a digit. -/
theorem exists_cons_repr (i : Int) : ∃ c cs, i.repr.toList = c :: cs ∧ (c = '-' ∨ c.isDigit) := by
  rw [toList_repr]
  by_cases hi : i < 0
  · rw [if_pos hi]
    exact ⟨'-', _, rfl, .inl rfl⟩
  · rw [if_neg hi]
    obtain ⟨c, cs, hcs, hc⟩ := exists_cons_toDigits i.natAbs
    exact ⟨c, cs, hcs, .inr hc⟩

end Lanewise.Text
