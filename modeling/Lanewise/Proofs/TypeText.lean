/-
# Types are read back from their text

The reader cuts a text at its first `x`: what is before it names the lane type,
what is after it the lanes. The writer puts no `x` into a lane type, and a
numeral tells its number, so a valid type is read back from what is written.

Key theorems: `DType.read?_text`, `DType.text_inj`, `DType.isIdentifier_text`.
-/
import Lanewise.Proofs.DType
import Lanewise.Proofs.Words
import Lanewise.DType.Checked

namespace Lanewise.DType

open Text

/-! ### Numerals -/

/-- A numeral of the writer is read back. -/
theorem readWord?_toDigits (n : UInt16) : readWord? (Nat.toDigits 10 n.toNat) = some n := by
  have hall : (Nat.toDigits 10 n.toNat).all Char.isDigit :=
    List.all_eq_true.mpr fun _ => isDigit_of_mem_toDigits
  have hlt : n.toNat < UInt16.size := n.toNat_lt
  obtain ⟨c, cs, hcs, hc⟩ := exists_cons_toDigits n.toNat
  have hplus : c ≠ '+' := by
    rintro rfl
    exact absurd hc (by decide)
  rw [hcs] at hall ⊢
  unfold readWord?
  dsimp only
  split
  · next r h => exact absurd (List.cons.inj h).1 hplus
  · rw [if_pos ⟨List.cons_ne_nil _ _, hall⟩, ← hcs, Nat.ofDigitChars_ten_toDigits, if_pos hlt,
      UInt16.ofNat_toNat]

/-! ### Lane types -/

/-- The text of the lane type. -/
def elementText (code : TypeCode) (bits : UInt16) : List Char :=
  if code = .handle then code.name.toList else (code.name ++ bits.toNat.repr).toList

/-- What holds of the lane types of the table. -/
theorem elementText_spec (code : TypeCode) {bits : UInt16} (h : bits ∈ code.widths) :
    readElement? (elementText code bits) = some (code, bits) ∧
      (elementText code bits).all (· != 'x') ∧ isIdentifier (elementText code bits) := by
  -- one width at a time, so that the numbers are closed terms
  cases code <;> simp only [TypeCode.widths, List.mem_cons, List.not_mem_nil, or_false] at h
  · rcases h with rfl | rfl | rfl | rfl <;> decide
  · rcases h with rfl | rfl | rfl | rfl | rfl <;> decide
  · rcases h with rfl | rfl | rfl <;> decide
  · obtain rfl := h
    decide

/-- The text of the lanes: nothing for one lane. -/
def lanesText (lanes : UInt16) : List Char :=
  if 1 < lanes then 'x' :: Nat.toDigits 10 lanes.toNat else []

/-- A type is written as its lane type and its lanes, unless it is `bool`. -/
theorem toList_text {d : DType} (hd : d.Valid) :
    d.text.toList = if d.isBool ∧ d.isScalar then "bool".toList
      else elementText d.code d.bits ++ lanesText d.lanes := by
  unfold text elementText lanesText
  split
  · rfl
  · by_cases hh : d.code = .handle
    · have h1 : d.lanes = 1 := hd.2.2 hh
      simp [isHandle, hh, h1]
    · by_cases hl : 1 < d.lanes
      · simp [isHandle, hh, hl]
      · simp [isHandle, hh, hl]

theorem span_elementText {code : TypeCode} {bits : UInt16} (h : bits ∈ code.widths)
    (lanes : UInt16) : (elementText code bits ++ lanesText lanes).span (· != 'x') =
      (elementText code bits, lanesText lanes) := by
  refine span_eq_iff.mpr ⟨rfl, List.all_eq_true.mp (elementText_spec code h).2.1, ?_⟩
  unfold lanesText
  split
  · rfl
  · trivial

theorem readLanes?_lanesText {lanes : UInt16} (h : lanes ≠ 0) :
    readLanes? (lanesText lanes) = some lanes := by
  unfold lanesText
  by_cases hl : 1 < lanes
  · rw [if_pos hl]
    exact readWord?_toDigits lanes
  · rw [if_neg hl]
    have h0 : lanes.toNat ≠ 0 := fun h' => h (UInt16.toNat_inj.mp h')
    have h1 : ¬ 1 < lanes.toNat := fun h' => hl (UInt16.lt_iff_toNat_lt.mpr h')
    have h2 : lanes = 1 := UInt16.toNat_inj.mp (by
      show lanes.toNat = 1
      omega)
    rw [h2]
    rfl

/-- **A valid type is read back from its text.** -/
theorem read?_text {d : DType} (hd : d.Valid) : read? d.text.toList = some d := by
  rw [toList_text hd]
  split
  · next h =>
    obtain ⟨hb, hs⟩ := h
    have hcode : d.code = .uint ∧ d.bits = 1 := isBool_iff.mp hb
    have hlanes : d.lanes = 1 := isScalar_iff.mp hs
    have heq : d = bool 1 := by
      cases d
      simp_all [bool]
    rw [heq]
    decide
  · unfold read?
    rw [span_elementText hd.1]
    simp only [readLanes?_lanesText hd.lanes_ne_zero, (elementText_spec d.code hd.1).1,
      Option.bind_some]
    exact if_pos hd

/-- What is read is a type. -/
theorem valid_of_read? {cs : List Char} {d : DType} (h : read? cs = some d) : d.Valid := by
  obtain ⟨lanes, -, h⟩ := Option.bind_eq_some_iff.mp h
  obtain ⟨⟨code, bits⟩, -, h⟩ := Option.bind_eq_some_iff.mp h
  dsimp only at h
  split at h
  · next hd => exact Option.some.inj h ▸ hd
  · simp at h

/-- No type begins with an `x`. -/
theorem read?_x (cs : List Char) : read? ('x' :: cs) = none := by
  have hspan : ('x' :: cs).span (· != 'x') = ([], 'x' :: cs) :=
    span_eq_iff.mpr ⟨rfl, List.forall_mem_nil _, rfl⟩
  have hnone : readElement? [] = none := by decide
  unfold read?
  rw [hspan]
  simp [hnone]

/-- The text of a type is a name. -/
theorem isIdentifier_text {d : DType} (hd : d.Valid) : isIdentifier d.text.toList := by
  rw [toList_text hd]
  split
  · decide
  · refine isIdentifier_append (elementText_spec d.code hd.1).2.2 fun c hc => ?_
    unfold lanesText at hc
    split at hc
    · rcases List.mem_cons.mp hc with rfl | hc
      · decide
      · exact isWord_of_isDigit (isDigit_of_mem_toDigits hc)
    · simp at hc

/-- Different types have different texts. -/
theorem text_inj {d e : DType} (hd : d.Valid) (he : e.Valid) (h : d.text = e.text) : d = e := by
  have hread := read?_text hd
  rw [h, read?_text he] at hread
  exact (Option.some.inj hread).symm

end Lanewise.DType
