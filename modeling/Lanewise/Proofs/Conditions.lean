/-
# Conditions taken together

`all` and `any` fold a list of conditions from the left by a logical operator. A
condition that does not fit shows only when the fold comes to it, and the value
so far may get more lanes on the way. What decides is the list as a whole: all
its members are truth values and the vectors among them have one lane count
(`Expr.Combinable`). `Operator.operandType_logical` is one step of the fold. A
run is an induction on the list from its end, and it is carried by the lanes of
the value so far, which are those of the widest condition (`Expr.IsWidest`).
Neither notion depends on the order of the list.

Key definitions: `Combinator`, `Expr.Combinable`, `Expr.IsWidest`.
Key theorems: `Operator.operandType_logical`, `Build.combine_step`, `Build.widest_of_combine`,
`Build.exists_combine`, `conditions_combine`.
-/
import Lanewise.Proofs.ImplicitCast
import Mathlib.Data.List.Basic
import Mathlib.Data.List.Induction

namespace Lanewise

/-! ### Lists of conditions -/

namespace Expr

/-- All are truth values, and those with more than one lane have one lane count. -/
def Combinable (es : List Expr) : Prop :=
  (∀ e ∈ es, e.dtype.isBool) ∧
    ∀ x ∈ es, ∀ y ∈ es, 1 < x.lanes → 1 < y.lanes → x.lanes = y.lanes

/-- `n` is the greatest lane count in the list. -/
def IsWidest (n : UInt16) (es : List Expr) : Prop :=
  (∃ e ∈ es, e.lanes = n) ∧ ∀ e ∈ es, e.lanes ≤ n

variable {es fs : List Expr} {e : Expr} {m n : UInt16}

theorem Combinable.perm (h : Combinable es) (hp : es.Perm fs) : Combinable fs :=
  ⟨fun e he => h.1 e (hp.mem_iff.mpr he),
    fun x hx y hy => h.2 x (hp.mem_iff.mpr hx) y (hp.mem_iff.mpr hy)⟩

theorem IsWidest.perm (h : IsWidest n es) (hp : es.Perm fs) : IsWidest n fs := by
  obtain ⟨⟨e, he, hn⟩, hle⟩ := h
  exact ⟨⟨e, hp.mem_iff.mp he, hn⟩, fun x hx => hle x (hp.mem_iff.mpr hx)⟩

theorem IsWidest.unique (hm : IsWidest m es) (hn : IsWidest n es) : m = n := by
  obtain ⟨⟨x, hx, rfl⟩, hxle⟩ := hm
  obtain ⟨⟨y, hy, rfl⟩, hyle⟩ := hn
  exact UInt16.le_antisymm (hyle x hx) (hxle y hy)

theorem isWidest_singleton (e : Expr) : IsWidest e.lanes [e] :=
  ⟨⟨e, List.mem_singleton_self e, rfl⟩, fun x hx => by
    rw [List.mem_singleton.mp hx]
    exact UInt16.le_refl _⟩

/-- One more condition, whose lanes may be more or fewer than all before. -/
theorem IsWidest.concat (h : IsWidest m es) (e : Expr) :
    IsWidest (max m e.lanes) (es ++ [e]) := by
  obtain ⟨⟨x, hx, hxm⟩, hle⟩ := h
  have hlast : e ∈ es ++ [e] := List.mem_append_right _ (List.mem_singleton_self e)
  by_cases hme : m ≤ e.lanes
  · rw [show max m e.lanes = e.lanes from if_pos hme]
    refine ⟨⟨e, hlast, rfl⟩, fun y hy => ?_⟩
    rcases List.mem_append.mp hy with hy | hy
    · exact UInt16.le_trans (hle y hy) hme
    · rw [List.mem_singleton.mp hy]
      exact UInt16.le_refl _
  · rw [show max m e.lanes = m from if_neg hme]
    refine ⟨⟨x, List.mem_append_left _ hx, hxm⟩, fun y hy => ?_⟩
    rcases List.mem_append.mp hy with hy | hy
    · exact hle y hy
    · rw [List.mem_singleton.mp hy]
      exact UInt16.le_of_lt (UInt16.not_le.mp hme)

/-- The last condition has to fit the widest of those before it, and no other. -/
theorem combinable_concat_iff (hm : IsWidest m es) :
    Combinable (es ++ [e]) ↔
      Combinable es ∧ e.dtype.isBool ∧ (1 < m → 1 < e.lanes → m = e.lanes) := by
  obtain ⟨⟨w, hw, hwm⟩, hle⟩ := hm
  have hlast : e ∈ es ++ [e] := List.mem_append_right _ (List.mem_singleton_self e)
  constructor
  · rintro ⟨hbool, hlanes⟩
    refine ⟨⟨fun x hx => hbool x (List.mem_append_left _ hx), fun x hx y hy => ?_⟩,
      hbool e hlast, fun h1 he => ?_⟩
    · exact hlanes x (List.mem_append_left _ hx) y (List.mem_append_left _ hy)
    · rw [← hwm] at h1 ⊢
      exact hlanes w (List.mem_append_left _ hw) e hlast h1 he
  · rintro ⟨⟨hbool, hlanes⟩, hebool, hfit⟩
    -- a vector of the list has the lanes of the widest one, and so those of `e`
    have hvector : ∀ x ∈ es, 1 < x.lanes → 1 < e.lanes → x.lanes = e.lanes := fun x hx h1 he => by
      have hm : 1 < m := UInt16.lt_of_lt_of_le h1 (hle x hx)
      exact (hlanes x hx w hw h1 (hwm ▸ hm)).trans (hwm.trans (hfit hm he))
    refine ⟨fun x hx => ?_, fun x hx y hy h1 h2 => ?_⟩
    · rcases List.mem_append.mp hx with hx | hx
      · exact hbool x hx
      · exact List.mem_singleton.mp hx ▸ hebool
    · rcases List.mem_append.mp hx with hx | hx <;> rcases List.mem_append.mp hy with hy | hy
      · exact hlanes x hx y hy h1 h2
      · rw [List.mem_singleton.mp hy] at h2 ⊢
        exact hvector x hx h1 h2
      · rw [List.mem_singleton.mp hx] at h1 ⊢
        exact (hvector y hy h2 h1).symm
      · rw [List.mem_singleton.mp hx, List.mem_singleton.mp hy]

end Expr

/-! ### One logical operator -/

theorem DType.eq_bool {d : DType} (h : d.isBool) : d = .bool d.lanes := by
  have hd : d.code = .uint ∧ d.bits = 1 := isBool_iff.mp h
  exact congr (congrArg₂ DType.mk hd.1 hd.2) rfl

theorem DType.isHandle_of_isBool {d : DType} (h : d.isBool) : d.isHandle = false := by
  rw [eq_bool h]
  rfl

theorem DType.Valid.isScalar_iff_not_lt {d : DType} (h : d.Valid) :
    d.isScalar = true ↔ ¬ 1 < d.lanes := by
  have hv : decide (1 < d.lanes) = !d.isScalar := h.isVector_eq
  cases hs : d.isScalar <;> simp_all

namespace Expr

variable {a b : Expr}

/-- Truth values go together unless they are vectors of two lane counts. -/
theorem reconcilable_iff_of_isBool (ha : a.NodeTyped) (hb : b.NodeTyped) (hab : a.dtype.isBool)
    (hbb : b.dtype.isBool) :
    a.Reconcilable b ↔ (1 < a.lanes → 1 < b.lanes → a.lanes = b.lanes) := by
  have hel : a.dtype.element = b.dtype.element := by
    rw [DType.eq_bool hab, DType.eq_bool hbb]
    rfl
  have hsa := ha.valid.isScalar_iff_not_lt
  have hsb := hb.valid.isScalar_iff_not_lt
  constructor
  · rintro ⟨hl | ⟨hs, -⟩, -⟩ h1 h2
    · exact hl
    · have hsa' : a.dtype.isScalar = false := Bool.eq_false_iff.mpr fun h => hsa.mp h h1
      have hsb' : b.dtype.isScalar = false := Bool.eq_false_iff.mpr fun h => hsb.mp h h2
      exact absurd (hsa'.trans hsb'.symm) hs
  · intro h
    refine ⟨?_, fun _ => .inl hel⟩
    by_cases hl : a.lanes = b.lanes
    · exact .inl hl
    · refine .inr ⟨fun hs => hl ?_, DType.isHandle_of_isBool hab, DType.isHandle_of_isBool hbb⟩
      by_cases h1 : a.dtype.isScalar
      · have h2 : b.dtype.isScalar := hs ▸ h1
        exact (DType.isScalar_iff.mp h1).trans (DType.isScalar_iff.mp h2).symm
      · have h2 : ¬ b.dtype.isScalar := hs ▸ h1
        exact h (not_not.mp (mt hsa.mpr h1)) (not_not.mp (mt hsb.mpr h2))

theorem joined_of_isBool (hab : a.dtype.isBool) (hbb : b.dtype.isBool) :
    a.joined b = .bool (max a.lanes b.lanes) := by
  have hel : a.dtype.element = b.dtype.element := by
    rw [DType.eq_bool hab, DType.eq_bool hbb]
    rfl
  rw [joined, joinedElement, if_pos hel, DType.eq_bool hab]
  rfl

end Expr

theorem BinaryOp.isComparison_of_isLogical {f : BinaryOp} (h : f.isLogical) :
    f.isComparison = false := by
  cases f <;> simp_all [isLogical, isComparison]

namespace Operator

open Build Lanewise.Expr

variable {op : Operator} {f : BinaryOp} {a b r : Expr} {d : DType} {s s' : Session}

theorem takes_iff_of_isLogical (hf : f.isLogical) : (binary f).Takes d ↔ d.isBool :=
  ⟨fun h => h.2 hf, fun h => ⟨fun _ => DType.isHandle_of_isBool h, fun _ => h⟩⟩

/-- The operands of a logical operator, and the type that it brings them to. -/
theorem operandType_logical (hf : f.isLogical) (ha : a.NodeTyped) (hb : b.NodeTyped) :
    (binary f).operandType a b = .ok d ↔
      (a.dtype.isBool ∧ b.dtype.isBool ∧ (1 < a.lanes → 1 < b.lanes → a.lanes = b.lanes)) ∧
        d = .bool (max a.lanes b.lanes) := by
  rw [operandType_eq_ok_iff, takes_iff_of_isLogical hf, takes_iff_of_isLogical hf,
    commonType_eq _ ha hb]
  constructor
  · rintro ⟨⟨hab, hbb⟩, hd⟩
    by_cases hr : a.Reconcilable b
    · rw [if_pos hr, joined_of_isBool hab hbb] at hd
      exact ⟨⟨hab, hbb, (reconcilable_iff_of_isBool ha hb hab hbb).mp hr⟩,
        (Except.ok.inj hd).symm⟩
    · rw [if_neg hr] at hd
      simp at hd
  · rintro ⟨⟨hab, hbb, hl⟩, rfl⟩
    have hr : a.Reconcilable b := (reconcilable_iff_of_isBool ha hb hab hbb).mpr hl
    exact ⟨⟨hab, hbb⟩, by rw [if_pos hr, joined_of_isBool hab hbb]⟩

/-- An operator on typed operands makes a typed node. -/
theorem typed_of_yields (ha : a.NodeTyped) (hb : b.NodeTyped)
    (h : Yields (op.build a b) s r s') : r.NodeTyped := by
  obtain ⟨d, lhs, rhs, i, _, _, hd, hl, hrhs, hi, rfl⟩ := build_yields h
  obtain ⟨-, hcommon⟩ := operandType_eq_ok_iff.mp hd
  have hvalid : d.Valid := by
    rcases (fits_of_commonType hcommon).1 with rfl | rfl
    · exact ha.valid
    · exact hb.valid
  exact node_typed hvalid (takes_of_operandType hd) hi (coerce_dtype hl) (coerce_dtype hrhs)

end Operator

/-- A truth value, brought to the lanes of another one, is kept or repeated. -/
theorem Build.coerce_bool {e x : Expr} {n : UInt16} {s s' : Session} (he : e.dtype.isBool)
    (h : Gives (coerce (.bool n) e) s x s') : x = e ∨ ∃ j, x = .broadcast j e := by
  obtain ⟨y, hc, hsp⟩ := coerce_spread h
  have hel : e.dtype.element = (DType.bool n).element := by
    rw [DType.eq_bool he]
    rfl
  obtain rfl : y = e := by
    cases hc with
    | same => rfl
    | literal _ _ hne | cast _ hne => exact absurd hel hne
  cases hsp with
  | same => exact .inl rfl
  | broadcast j => exact .inr ⟨j, rfl⟩

/-! ### All conditions of a list -/

namespace Build

open Lanewise.Expr

variable {name : String} {f : BinaryOp} {es : List Expr} {e r : Expr} {s s' : Session}

/-- The last condition comes on top of the others. -/
theorem combine_concat (hes : es ≠ []) :
    combine name f (es ++ [e]) = combine name f es >>= fun l => binary f l e := by
  cases es with
  | nil => exact absurd rfl hes
  | cons x xs =>
    show (xs ++ [e]).foldlM (binary f) x = _
    rw [List.foldlM_append]
    simp only [List.foldlM_cons, List.foldlM_nil, bind_pure]
    rfl

/-- The last step of the fold: `l` is the value so far, `last` the last condition. -/
theorem combine_step {l last : Expr} (hf : f.isLogical) (hl : l.NodeTyped) (ht : last.NodeTyped)
    (h : Yields (binary f l last) s r s') :
    (l.dtype.isBool ∧ last.dtype.isBool ∧ (1 < l.lanes → 1 < last.lanes → l.lanes = last.lanes)) ∧
      r.dtype = .bool (max l.lanes last.lanes) ∧ ∃ i lhs rhs, r = .binary i f lhs rhs ∧
        (lhs = l ∨ ∃ j, lhs = .broadcast j l) ∧ (rhs = last ∨ ∃ j, rhs = .broadcast j last) := by
  have h' : Yields ((Operator.binary f).build l last) s r s' := h
  obtain ⟨d, lhs, rhs, i, _, _, hd, hlhs, hrhs, hi, rfl⟩ := Operator.build_yields h'
  obtain ⟨hcond, rfl⟩ := (Operator.operandType_logical hf hl ht).mp hd
  refine ⟨hcond, hi.trans ?_, i, lhs, rhs, rfl, coerce_bool hcond.1 hlhs,
    coerce_bool hcond.2.1 hrhs⟩
  exact if_neg (Bool.eq_false_iff.mp (BinaryOp.isComparison_of_isLogical hf))

/-- The value so far has the lanes of the widest condition. If it is a truth value,
which one condition alone need not be, then the conditions go together. -/
theorem widest_of_combine (hf : f.isLogical) (ht : ∀ e ∈ es, e.NodeTyped)
    (h : Yields (combine name f es) s r s') :
    r.NodeTyped ∧ IsWidest r.lanes es ∧ (r.dtype.isBool → Combinable es) := by
  induction es using List.reverseRecOn generalizing r s' with
  | nil => cases h
  | append_singleton es e ih =>
    have hte : e.NodeTyped := ht e (List.mem_append_right _ (List.mem_singleton_self e))
    have htes : ∀ x ∈ es, x.NodeTyped := fun x hx => ht x (List.mem_append_left _ hx)
    by_cases hes : es = []
    · subst hes
      obtain rfl : e = r := Except.ok.inj (congrArg Prod.fst h)
      refine ⟨hte, isWidest_singleton e, fun hb => ⟨fun x hx => ?_, fun x hx y hy _ _ => ?_⟩⟩
      · rw [List.mem_singleton.mp hx]
        exact hb
      · rw [List.mem_singleton.mp hx, List.mem_singleton.mp hy]
    · rw [combine_concat hes] at h
      obtain ⟨l, s₁, hl, hr⟩ := yields_bind.mp h
      obtain ⟨htl, hwide, hcomb⟩ := ih htes hl
      obtain ⟨⟨hlb, heb, hlanes⟩, hd, -⟩ := combine_step hf htl hte hr
      refine ⟨(Operator.binary f).typed_of_yields htl hte hr, ?_, fun _ => ?_⟩
      · rw [Expr.lanes, hd]
        exact hwide.concat e
      · exact (combinable_concat_iff hwide).mpr ⟨hcomb hlb, heb, hlanes⟩

/-- Conditions that go together are combined, to a truth value. -/
theorem exists_combine (hf : f.isLogical) (ht : ∀ e ∈ es, e.NodeTyped) (hne : es ≠ [])
    (hc : Combinable es) (s : Session) :
    ∃ r s', Yields (combine name f es) s r s' ∧ r.dtype.isBool := by
  induction es using List.reverseRecOn with
  | nil => exact absurd rfl hne
  | append_singleton es e ih =>
    have hte : e.NodeTyped := ht e (List.mem_append_right _ (List.mem_singleton_self e))
    have htes : ∀ x ∈ es, x.NodeTyped := fun x hx => ht x (List.mem_append_left _ hx)
    by_cases hes : es = []
    · subst hes
      exact ⟨e, s, rfl, hc.1 e (List.mem_singleton_self e)⟩
    · have hces : Combinable es :=
        ⟨fun x hx => hc.1 x (List.mem_append_left _ hx),
          fun x hx y hy => hc.2 x (List.mem_append_left _ hx) y (List.mem_append_left _ hy)⟩
      obtain ⟨l, s₁, hl, hlb⟩ := ih htes hes hces
      obtain ⟨htl, hwide, -⟩ := widest_of_combine hf htes hl
      obtain ⟨-, heb, hlanes⟩ := (combinable_concat_iff hwide).mp hc
      have htype := (Operator.operandType_logical hf htl hte).mpr ⟨⟨hlb, heb, hlanes⟩, rfl⟩
      obtain ⟨r, s', hr⟩ := Operator.exists_build htype s₁
      refine ⟨r, s', ?_, ?_⟩
      · rw [combine_concat hes]
        exact yields_bind.mpr ⟨l, s₁, hl, hr⟩
      · rw [(combine_step hf htl hte hr).2.1]
        rfl

/-! Two conditions or more: the fold ends with an operator. -/

theorem exists_concat_of_two_le {α : Type} {xs : List α} (h : 2 ≤ xs.length) :
    ∃ front last, xs = front ++ [last] ∧ front ≠ [] := by
  rcases List.eq_nil_or_concat' xs with rfl | ⟨front, last, rfl⟩
  · simp at h
  · refine ⟨front, last, rfl, ?_⟩
    rintro rfl
    simp at h

/-- What the fold of two or more conditions ends with. -/
theorem combine_root (hf : f.isLogical) (ht : ∀ e ∈ es, e.NodeTyped) (hlen : 2 ≤ es.length)
    (h : Yields (combine name f es) s r s') :
    Combinable es ∧ (∃ n, IsWidest n es ∧ r.dtype = .bool n) ∧
      ∃ front last l s₁ i lhs rhs, es = front ++ [last] ∧ Yields (combine name f front) s l s₁ ∧
        r = .binary i f lhs rhs ∧ (lhs = l ∨ ∃ j, lhs = .broadcast j l) ∧
        (rhs = last ∨ ∃ j, rhs = .broadcast j last) := by
  obtain ⟨-, hwide, hcomb⟩ := widest_of_combine hf ht h
  obtain ⟨front, last, rfl, hfront⟩ := exists_concat_of_two_le hlen
  have htl : last.NodeTyped := ht last (List.mem_append_right _ (List.mem_singleton_self last))
  have htf : ∀ e ∈ front, e.NodeTyped := fun e he => ht e (List.mem_append_left _ he)
  rw [combine_concat hfront] at h
  obtain ⟨l, s₁, hl, hr⟩ := yields_bind.mp h
  obtain ⟨-, hd, i, lhs, rhs, hnode, hlhs, hrhs⟩ :=
    combine_step hf (widest_of_combine hf htf hl).1 htl hr
  have hdr : r.dtype = .bool r.lanes := by
    rw [Expr.lanes, hd]
    rfl
  refine ⟨hcomb (hdr ▸ rfl), ⟨r.lanes, hwide, hdr⟩, ?_⟩
  exact ⟨front, last, l, s₁, i, lhs, rhs, rfl, hl, hnode, hlhs, hrhs⟩

/-- The order of the conditions does not count. -/
theorem exists_combine_perm {fs : List Expr} {d : DType} (hf : f.isLogical)
    (ht : ∀ e ∈ es, e.NodeTyped) (hlen : 2 ≤ es.length) (hp : es.Perm fs) (t : Session)
    (h : ∃ r s', Yields (combine name f es) s r s' ∧ r.dtype = d) :
    ∃ r t', Yields (combine name f fs) t r t' ∧ r.dtype = d := by
  obtain ⟨r, s', hr, rfl⟩ := h
  obtain ⟨hcomb, ⟨n, hwide, hd⟩, -⟩ := combine_root hf ht hlen hr
  have htfs : ∀ e ∈ fs, e.NodeTyped := fun e he => ht e (hp.mem_iff.mpr he)
  have hlenfs : 2 ≤ fs.length := hp.length_eq ▸ hlen
  have hne : fs ≠ [] := List.ne_nil_of_length_pos (by omega)
  obtain ⟨q, t', hq, -⟩ := exists_combine hf htfs hne (hcomb.perm hp) t
  obtain ⟨-, ⟨m, hwide', hd'⟩, -⟩ := combine_root hf htfs hlenfs hq
  obtain rfl : m = n := hwide'.unique (hwide.perm hp)
  exact ⟨q, t', hq, hd'.trans hd.symm⟩

end Build

/-! ### Both combinators -/

/-- The two ways to take conditions together. -/
inductive Combinator where
  | all
  | any
deriving DecidableEq, Repr

namespace Combinator

/-- The name that the error for no conditions shows. -/
def name : Combinator → String
  | all => "all"
  | any => "any"

/-- The operator between two conditions. -/
def op : Combinator → BinaryOp
  | all => .and
  | any => .or

/-- The builder of the combination. -/
def build : Combinator → List Expr → BuildM Expr
  | all => Build.all
  | any => Build.any

theorem build_eq (c : Combinator) (es : List Expr) :
    c.build es = Build.combine c.name c.op es := by
  cases c <;> rfl

theorem isLogical_op (c : Combinator) : c.op.isLogical := by cases c <;> rfl

end Combinator

open Build Lanewise.Expr

/-- **Conditions are combined as a whole.** No condition is an error and one is its
own result. Two or more conditions of a run are combined just when all are truth
values and those with more than one lane have one lane count. The result is then
a truth value over the lanes of the widest one; it is made of the last condition
and of the result for those before it, each as it is or repeated over more lanes.
The order of the conditions changes neither the success nor the type. -/
theorem conditions_combine {w : World} (h : Reachable w) (c : Combinator) :
    (∀ s, (c.build []).run.run s = (.error (.noConditions c.name), s)) ∧
    (∀ e s, Yields (c.build [e]) s e s) ∧
    ∀ es : List Expr, 2 ≤ es.length → (∀ e ∈ es, w.Has e) → ∀ s,
      ((∃ r s', Yields (c.build es) s r s') ↔ Combinable es) ∧
      (∀ r s', Yields (c.build es) s r s' → (∃ n, IsWidest n es ∧ r.dtype = .bool n) ∧
        ∃ front last l s₁ i lhs rhs, es = front ++ [last] ∧ Yields (c.build front) s l s₁ ∧
          r = .binary i c.op lhs rhs ∧ (lhs = l ∨ ∃ j, lhs = .broadcast j l) ∧
          (rhs = last ∨ ∃ j, rhs = .broadcast j last)) ∧
      ∀ fs, es.Perm fs → ∀ t d, (∃ r s', Yields (c.build es) s r s' ∧ r.dtype = d) ↔
        ∃ r t', Yields (c.build fs) t r t' ∧ r.dtype = d := by
  refine ⟨fun s => by cases c <;> rfl, fun e s => by cases c <;> rfl, fun es hlen hes s => ?_⟩
  have hf : c.op.isLogical := c.isLogical_op
  have ht : ∀ e ∈ es, e.NodeTyped := fun e he => h.nodeTyped (hes e he)
  have hne : es ≠ [] := List.ne_nil_of_length_pos (by omega)
  simp only [c.build_eq]
  refine ⟨⟨fun ⟨r, s', hr⟩ => (combine_root hf ht hlen hr).1, fun hc => ?_⟩,
    fun r s' hr => (combine_root hf ht hlen hr).2, fun fs hp t d => ⟨fun hr => ?_, fun hr => ?_⟩⟩
  · obtain ⟨r, s', hr, -⟩ := exists_combine hf ht hne hc s
    exact ⟨r, s', hr⟩
  · exact exists_combine_perm hf ht hlen hp t hr
  · have htfs : ∀ e ∈ fs, e.NodeTyped := fun e he => ht e (hp.mem_iff.mpr he)
    exact exists_combine_perm hf htfs (hp.length_eq ▸ hlen) hp.symm s hr

namespace World

/-- A condition. -/
def scalarFlag : Expr := .var ⟨0, .bool 1⟩ "p"

/-- A condition over four lanes. -/
def vectorFlag : Expr := .var ⟨1, .bool 4⟩ "q"

/-- One more condition, scalar again. -/
def lastFlag : Expr := .var ⟨2, .bool 1⟩ "r"

/-- A run that makes a truth value, a vector of them and one more. -/
def questions : World :=
  (({} : World).perform (.varOf "p" (.bool 1))).perform (.varOf "q" (.bool 4))
    |>.perform (.varOf "r" (.bool 1))

theorem reachable_questions : Reachable questions := by
  have h1 := Reachable.start.perform (.varOf "p" (.bool 1)) (List.forall_mem_nil _)
    (List.forall_mem_singleton.mpr (by decide))
  have h2 := h1.perform (.varOf "q" (.bool 4)) (List.forall_mem_nil _)
    (List.forall_mem_singleton.mpr (by decide))
  exact h2.perform (.varOf "r" (.bool 1)) (List.forall_mem_nil _)
    (List.forall_mem_singleton.mpr (by decide))

theorem questions_has_flags : ∀ e ∈ [scalarFlag, vectorFlag, lastFlag], questions.Has e :=
  List.forall_mem_cons.mpr ⟨⟨_, .tail _ (.tail _ (.head _)), .root⟩,
    List.forall_mem_cons.mpr ⟨⟨_, .tail _ (.head _), .root⟩,
      List.forall_mem_singleton.mpr ⟨_, .head _, .root⟩⟩⟩

end World

open World in
/-- A truth value, a vector and another truth value: the lanes change on the way,
and so they do when the vector comes first. -/
theorem questions_combine : Reachable questions ∧
    (∀ e ∈ [scalarFlag, vectorFlag, lastFlag], questions.Has e) ∧
    Combinable [scalarFlag, vectorFlag, lastFlag] ∧ ∀ t,
    ∃ r t', Yields (Build.all [vectorFlag, lastFlag, scalarFlag]) t r t' ∧ r.dtype = .bool 4 := by
  obtain ⟨hiff, -, hperm⟩ := (conditions_combine reachable_questions .all).2.2
    [scalarFlag, vectorFlag, lastFlag] (by decide) questions_has_flags {}
  refine ⟨reachable_questions, questions_has_flags, hiff.mp ⟨_, _, rfl⟩, fun t => ?_⟩
  have hp : ([scalarFlag] ++ [vectorFlag, lastFlag]).Perm
      ([vectorFlag, lastFlag] ++ [scalarFlag]) := List.perm_append_comm
  exact (hperm _ hp t (.bool 4)).mp ⟨_, _, rfl, rfl⟩

end Lanewise
