/-
# Promotion as a join

Promotion has two rules. Over different lane counts the vector wins, whatever it is
a vector of; over equal lane counts the float wins over the integer. Both say which
type gives way, and giving way is a partial order: what gave way to a float on the
way to a vector gives way to the vector itself. Promotion is the greater of two
comparable types and refuses all others (`DType.promote_eq_ok_iff`), so a list of
types in brackets is promoted to its greatest type or not at all
(`DType.Bracketing.isGreatest_of_promote`). The brackets decide whether two types
meet that are not comparable, and nothing else.

Key definitions: `DType.GivesWay`, `DType.Bracketing`, `DType.Bracketing.promote`.
Key theorems: `DType.promote_eq_ok_iff`, `DType.Bracketing.isGreatest_of_promote`,
`DType.promotion_joins`.
-/
import Lanewise.Proofs.DType
import Mathlib.Order.Bounds.Basic

namespace Lanewise.DType

variable {op : String} {a b c d e : DType}

/-! ### The order -/

/-- Next to the type `b`, the type `a` gives way, unless it is the same. -/
def GivesWay (a b : DType) : Prop :=
  a = b ∨ a.isScalar ∧ b.isScalar = false ∨ a.lanes = b.lanes ∧ a.isIntegral ∧ b.isFloat

theorem not_isIntegral_of_isFloat (h : a.isFloat) : ¬ a.isIntegral := fun hi =>
  Bool.false_ne_true ((isFloat_of_isIntegral hi).symm.trans h)

theorem isScalar_eq_of_lanes_eq (h : a.lanes = b.lanes) : a.isScalar = b.isScalar := by
  rw [isScalar, isScalar, h]

theorem GivesWay.trans (hab : GivesWay a b) (hbc : GivesWay b c) : GivesWay a c := by
  rcases hab with rfl | ⟨ha, hb⟩ | ⟨hl, ha, hb⟩
  · exact hbc
  · -- a vector gives way to vectors only
    refine .inr (.inl ⟨ha, ?_⟩)
    rcases hbc with rfl | ⟨hb', -⟩ | ⟨hl, -⟩
    · exact hb
    · exact absurd (hb.symm.trans hb') Bool.false_ne_true
    · exact (isScalar_eq_of_lanes_eq hl).symm.trans hb
  · rcases hbc with rfl | ⟨hb', hc⟩ | ⟨-, hb', -⟩
    · exact .inr (.inr ⟨hl, ha, hb⟩)
    · exact .inr (.inl ⟨(isScalar_eq_of_lanes_eq hl).trans hb', hc⟩)
    · exact absurd hb' (not_isIntegral_of_isFloat hb)

theorem GivesWay.antisymm (hab : GivesWay a b) (hba : GivesWay b a) : a = b := by
  rcases hab with rfl | ⟨ha, hb⟩ | ⟨hl, ha, hb⟩
  · rfl
  · rcases hba with rfl | ⟨hb', -⟩ | ⟨hl, -⟩
    · rfl
    · exact absurd (hb.symm.trans hb') Bool.false_ne_true
    · exact absurd (hb.symm.trans ((isScalar_eq_of_lanes_eq hl).trans ha)) Bool.false_ne_true
  · rcases hba with rfl | ⟨hb', ha'⟩ | ⟨-, hb', -⟩
    · rfl
    · exact absurd (ha'.symm.trans ((isScalar_eq_of_lanes_eq hl).trans hb')) Bool.false_ne_true
    · exact absurd hb' (not_isIntegral_of_isFloat hb)

instance : PartialOrder DType where
  le := GivesWay
  le_refl _ := .inl rfl
  le_trans _ _ _ := GivesWay.trans
  le_antisymm _ _ := GivesWay.antisymm

instance (a b : DType) : Decidable (a ≤ b) := inferInstanceAs (Decidable (_ ∨ _ ∨ _))

theorem le_iff_of_lanes_eq (h : a.lanes = b.lanes) :
    a ≤ b ↔ a = b ∨ a.isIntegral ∧ b.isFloat := by
  refine ⟨fun hab => ?_, fun hab => hab.imp id fun hf => .inr ⟨h, hf⟩⟩
  rcases hab with hab | ⟨ha, hb⟩ | ⟨-, hab⟩
  · exact .inl hab
  · exact absurd (hb.symm.trans ((isScalar_eq_of_lanes_eq h).symm.trans ha)) Bool.false_ne_true
  · exact .inr hab

theorem le_iff_of_lanes_ne (h : a.lanes ≠ b.lanes) : a ≤ b ↔ a.isScalar := by
  refine ⟨fun hab => ?_, fun ha => .inr (.inl ⟨ha, isScalar_eq_false ha h⟩)⟩
  rcases hab with rfl | ⟨ha, -⟩ | ⟨hl, -⟩
  · exact absurd rfl h
  · exact ha
  · exact absurd hl h

/-! ### Two types -/

theorem promote_of_lanes_eq (h : a.lanes = b.lanes) :
    promote op a b = if a ≤ b then .ok b else if b ≤ a then .ok a
      else .error (.dtypeMismatch op a b) := by
  have hle : a ≤ b ↔ a = b ∨ b.isFloat ∧ a.isIntegral := by
    rw [le_iff_of_lanes_eq h, and_comm]
  have hge : b ≤ a ↔ a = b ∨ a.isFloat ∧ b.isIntegral := by
    rw [le_iff_of_lanes_eq h.symm, and_comm, eq_comm]
  rw [promote, if_neg (not_not_intro h)]
  by_cases heq : a = b
  · rw [if_pos heq, if_pos (hle.mpr (.inl heq)), heq]
  · rw [if_neg heq]
    by_cases ha : a.isFloat ∧ b.isIntegral
    · have hnot : ¬ a ≤ b := fun hab => heq (le_antisymm hab (hge.mpr (.inr ha)))
      rw [if_pos ha, if_neg hnot, if_pos (hge.mpr (.inr ha))]
    · rw [if_neg ha]
      by_cases hb : b.isFloat ∧ a.isIntegral
      · rw [if_pos hb, if_pos (hle.mpr (.inr hb))]
      · rw [if_neg hb, if_neg (mt hle.mp (not_or_intro heq hb)),
          if_neg (mt hge.mp (not_or_intro heq ha))]

theorem promote_of_lanes_ne (h : a.lanes ≠ b.lanes) :
    promote op a b = if a ≤ b then .ok b else if b ≤ a then .ok a
      else .error (.dtypeMismatch op a b) := by
  rw [promote, if_pos h]
  simp only [le_iff_of_lanes_ne h, le_iff_of_lanes_ne h.symm]

/-- **Promotion is the greater of two comparable types**, and a mismatch of others. -/
theorem promote_eq (op : String) (a b : DType) :
    promote op a b = if a ≤ b then .ok b else if b ≤ a then .ok a
      else .error (.dtypeMismatch op a b) := by
  by_cases h : a.lanes = b.lanes
  · exact promote_of_lanes_eq h
  · exact promote_of_lanes_ne h

/-- A promotion gives the greater of two types that can be compared. -/
theorem promote_eq_ok_iff : promote op a b = .ok d ↔ a ≤ b ∧ d = b ∨ b ≤ a ∧ d = a := by
  rw [promote_eq]
  by_cases hab : a ≤ b
  · rw [if_pos hab]
    constructor
    · intro h
      exact .inl ⟨hab, (Except.ok.inj h).symm⟩
    · rintro (⟨-, rfl⟩ | ⟨hba, rfl⟩)
      · rfl
      · rw [le_antisymm hab hba]
  · rw [if_neg hab]
    by_cases hba : b ≤ a
    · rw [if_pos hba]
      constructor
      · intro h
        exact .inr ⟨hba, (Except.ok.inj h).symm⟩
      · rintro (⟨hab', -⟩ | ⟨-, rfl⟩)
        · exact absurd hab' hab
        · rfl
    · rw [if_neg hba]
      simp [hab, hba]

theorem promote_self (op : String) (a : DType) : promote op a a = .ok a :=
  promote_eq_ok_iff.mpr (.inl ⟨le_refl a, rfl⟩)

theorem promote_comm : promote op a b = .ok d ↔ promote op b a = .ok d := by
  rw [promote_eq_ok_iff, promote_eq_ok_iff]
  exact or_comm

theorem eq_or_eq_of_promote_ok (h : promote op a b = .ok d) : d = a ∨ d = b :=
  (promote_eq_ok_iff.mp h).elim (fun hb => .inr hb.2) fun ha => .inl ha.2

theorem le_of_promote_ok (h : promote op a b = .ok d) : a ≤ d ∧ b ≤ d := by
  rcases promote_eq_ok_iff.mp h with ⟨hab, rfl⟩ | ⟨hba, rfl⟩
  · exact ⟨hab, le_refl _⟩
  · exact ⟨le_refl _, hba⟩

theorem promote_of_le (h : a ≤ d) : promote op d a = .ok d :=
  promote_eq_ok_iff.mpr (.inr ⟨h, rfl⟩)

/-! ### Types in brackets -/

/-- A list of types in brackets, two by two. -/
inductive Bracketing where
  | type (d : DType)
  | pair (l r : Bracketing)
deriving DecidableEq, Repr

namespace Bracketing

/-- The types from left to right. -/
def types : Bracketing → List DType
  | type d => [d]
  | pair l r => l.types ++ r.types

/-- The types promoted two by two, as the brackets say. -/
def promote (op : String) : Bracketing → Except BuildError DType
  | type d => .ok d
  | pair l r => do DType.promote op (← l.promote op) (← r.promote op)

/-- Three types, the first two together. -/
def leftFirst (a b c : DType) : Bracketing := .pair (.pair (.type a) (.type b)) (.type c)

/-- Three types, the last two together. -/
def rightFirst (a b c : DType) : Bracketing := .pair (.type a) (.pair (.type b) (.type c))

variable {s t l r : Bracketing}

theorem promote_pair (h : (pair l r).promote op = .ok d) :
    ∃ a b, l.promote op = .ok a ∧ r.promote op = .ok b ∧ DType.promote op a b = .ok d := by
  rw [promote] at h
  cases hl : l.promote op with
  | error err =>
    rw [hl] at h
    cases h
  | ok a =>
    cases hr : r.promote op with
    | error err =>
      rw [hl, hr] at h
      cases h
    | ok b =>
      rw [hl, hr] at h
      exact ⟨a, b, rfl, rfl, h⟩

/-- What the brackets are promoted to is the greatest of their types. -/
theorem isGreatest_of_promote (h : t.promote op = .ok d) : IsGreatest {x | x ∈ t.types} d := by
  induction t generalizing d with
  | type x =>
    cases h
    exact ⟨List.mem_singleton_self x, fun y hy => (List.mem_singleton.mp hy).le⟩
  | pair l r ihl ihr =>
    obtain ⟨a, b, hl, hr, hab⟩ := promote_pair h
    obtain ⟨hla, hle⟩ := ihl hl
    obtain ⟨hrb, hre⟩ := ihr hr
    obtain ⟨had, hbd⟩ := le_of_promote_ok hab
    constructor
    · rcases eq_or_eq_of_promote_ok hab with rfl | rfl
      · exact List.mem_append_left _ hla
      · exact List.mem_append_right _ hrb
    · intro x hx
      rcases List.mem_append.mp hx with hx | hx
      · exact (hle hx).trans had
      · exact (hre hx).trans hbd

/-- The brackets do not change the type. -/
theorem eq_of_promote (h : s.types = t.types) (hs : s.promote op = .ok d)
    (ht : t.promote op = .ok e) : d = e := by
  have hd := isGreatest_of_promote hs
  rw [h] at hd
  exact hd.unique (isGreatest_of_promote ht)

example : (leftFirst (.int 32) (.int 64) (.float 32)).promote "add" =
      .error (.dtypeMismatch "add" (.int 32) (.int 64)) ∧
    (rightFirst (.int 32) (.int 64) (.float 32)).promote "add" = .ok (.float 32) := by decide

end Bracketing

/-- **Promotion is a partial join.** A type next to itself stays; the order of two
types does not matter; what two types are promoted to is one of them, and takes
in both again. Three types are promoted to one type from either side, and a list
of types to one type however it is put in brackets, as far as the promotions on
the way succeed. The types need not be valid. -/
theorem promotion_joins (op : String) :
    (∀ a, promote op a a = .ok a) ∧
    (∀ a b d, promote op a b = .ok d ↔ promote op b a = .ok d) ∧
    (∀ a b d, promote op a b = .ok d →
      (d = a ∨ d = b) ∧ promote op d a = .ok d ∧ promote op d b = .ok d) ∧
    (∀ a b c d e, (do promote op (← promote op a b) c) = .ok d →
      (do promote op a (← promote op b c)) = .ok e → d = e) ∧
    ∀ s t : Bracketing, s.types = t.types → ∀ d e,
      s.promote op = .ok d → t.promote op = .ok e → d = e := by
  refine ⟨promote_self op, fun _ _ _ => promote_comm, fun a b d h => ?_, fun a b c d e hd he => ?_,
    fun s t h d e => Bracketing.eq_of_promote h⟩
  · obtain ⟨ha, hb⟩ := le_of_promote_ok h
    exact ⟨eq_or_eq_of_promote_ok h, promote_of_le ha, promote_of_le hb⟩
  · have htypes : (Bracketing.leftFirst a b c).types = (Bracketing.rightFirst a b c).types := rfl
    exact Bracketing.eq_of_promote htypes hd he

/-- An integer, a float and a vector, promoted from either side. The float wins on the
way and the vector in the end. -/
theorem vector_after_float_joins :
    (∃ d, promote "add" (.int 32) (.float 32) = .ok d ∧
      promote "add" (.float 32) (.int 32) = .ok d ∧ (d = .int 32 ∨ d = .float 32) ∧
      promote "add" d (.int 32) = .ok d ∧ promote "add" d (.float 32) = .ok d) ∧
    (∃ d e, (do promote "add" (← promote "add" (.int 32) (.float 32)) ⟨.int, 8, 4⟩) = .ok d ∧
      (do promote "add" (.int 32) (← promote "add" (.float 32) ⟨.int, 8, 4⟩)) = .ok e ∧ d = e) ∧
    ∃ d e, (Bracketing.leftFirst (.int 32) (.float 32) ⟨.int, 8, 4⟩).promote "add" = .ok d ∧
      (Bracketing.rightFirst (.int 32) (.float 32) ⟨.int, 8, 4⟩).promote "add" = .ok e ∧ d = e := by
  obtain ⟨-, hcomm, htaken, hassoc, hbrackets⟩ := promotion_joins "add"
  have hfloat : promote "add" (.int 32) (.float 32) = .ok (.float 32) := rfl
  obtain ⟨hone, hleft, hright⟩ := htaken _ _ _ hfloat
  have htypes : (Bracketing.leftFirst (.int 32) (.float 32) ⟨.int, 8, 4⟩).types =
      (Bracketing.rightFirst (.int 32) (.float 32) ⟨.int, 8, 4⟩).types := rfl
  exact ⟨⟨_, hfloat, (hcomm _ _ _).mp hfloat, hone, hleft, hright⟩,
    ⟨_, _, rfl, rfl, hassoc (.int 32) (.float 32) ⟨.int, 8, 4⟩ _ _ rfl rfl⟩,
    _, _, rfl, rfl, hbrackets _ _ htypes _ _ rfl rfl⟩

end Lanewise.DType
