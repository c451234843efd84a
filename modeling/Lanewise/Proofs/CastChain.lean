/-
# Chains of integer casts

An integer literal that is cast to integer types one after the other is reduced
to each of them in turn, by numbers: the word between two casts is read in the
type that it has there. A literal of the right type already is taken as it is,
which is no exception, since it is in the range. Where no type on the way is
narrower than the last one or is `bool`, only the last reduction counts.

Key definitions: `Build.castThrough`, `DType.ReducesThrough`.
Key theorems: `Build.exists_cast_intImm`, `Build.exists_castThrough`,
`DType.ReducesThrough.eq_residue`, `castThrough_reduces`.
-/
import Lanewise.Proofs.Conversion
import Lanewise.Proofs.Equality
import Lanewise.Proofs.Reachable
import Lanewise.Proofs.Residue

namespace Lanewise

/-- The value cast to each of the types in turn. -/
def Build.castThrough (e : Expr) (ds : List DType) : BuildM Expr := ds.foldlM cast e

namespace DType

/-- A scalar integer type. -/
def ScalarInteger (d : DType) : Prop := d.Valid ∧ d.isScalar ∧ d.isIntegral

/-- The numbers that the types of the list make of a number, one after the other,
end with the last one given. -/
inductive ReducesThrough : Int → List DType → Int → Prop
  | nil (x : Int) : ReducesThrough x [] x
  | cons {d : DType} {ds : List DType} {x y z : Int} (h : d.Reduces x y)
      (hs : ReducesThrough y ds z) : ReducesThrough x (d :: ds) z

/-! ### Numbers -/

/-- Through wide types a number is only reduced to the last one. -/
theorem ReducesThrough.eq_residue {d : DType} {ds : List DType} {x y : Int}
    (h : ReducesThrough x ds y) (hds : ∀ t ∈ ds, t.ScalarInteger) (hlast : ds.getLast? = some d)
    (hwide : ∀ t ∈ ds, t.isBool = false ∧ d.bits ≤ t.bits) : y = d.residue x := by
  induction h with
  | nil => cases hlast
  | @cons t ts x m y hm hs ih =>
    obtain ⟨⟨htv, -, hti⟩, hts⟩ := List.forall_mem_cons.mp hds
    obtain ⟨⟨htb, hbits⟩, hwide'⟩ := List.forall_mem_cons.mp hwide
    rw [reduces_iff htv hti] at hm
    cases ts with
    | nil =>
      cases hs
      cases hlast
      exact hm
    | cons t' ts' =>
      rw [List.getLast?_cons_cons] at hlast
      have hdb : d.isBool = false := (hwide' d (List.mem_of_getLast? hlast)).1
      rw [ih hts hlast hwide', hm, residue_residue hdb htb hbits]

end DType

/-! ### One cast -/

open Build Lanewise.Expr

variable {i j : NodeInfo} {u v : Int64} {d : DType}

theorem ofScalar_int64 (hd : i.dtype.isIntegral) :
    ofScalar i (.int64 v) = .intImm i (i.dtype.wrap v) := by
  rw [ofScalar_eq_intImm rfl (DType.isFloat_of_isIntegral hd), Int64.ofInt_toInt]

/-- A literal cast to a scalar integer type is the literal of the word that a
lane of the type keeps. -/
theorem Build.exists_cast_intImm (he : (intImm i v).NodeTyped) (hd : d.ScalarInteger)
    (s : Session) :
    ∃ j s', Yields (cast (.intImm i v) d) s (.intImm j (d.wrap v)) s' ∧ j.dtype = d := by
  obtain ⟨-, hs, -, hwrap, -⟩ := he
  by_cases hsame : i.dtype = d
  · subst hsame
    have hself : (intImm i v).dtype = i.dtype := rfl
    refine ⟨i, s, ?_, rfl⟩
    rw [hwrap, cast, if_pos hself]
    rfl
  · have hne : (intImm i v).dtype.element ≠ d.element := fun h =>
      hsame ((DType.element_eq_self hs).symm.trans (h.trans (DType.element_eq_self hd.2.1)))
    obtain ⟨x, s', j, hrun, hj, hsp⟩ := exists_cast_literal (e := .intImm i v) hs rfl
      (DType.isHandle_of_isIntegral hd.2.2) hne s
    have hjd : j.dtype = d := hj.trans (DType.element_eq_self hd.2.1)
    rw [ofScalar_int64 (hjd ▸ hd.2.2), hjd] at hsp
    rw [hsp.eq_of_lanes (congrArg DType.lanes hjd)] at hrun
    exact ⟨j, s', hrun, hjd⟩

/-- The literal of a kept word is a typed node again. -/
theorem intImm_wrap_typed (hd : d.ScalarInteger) (hj : j.dtype = d) :
    (intImm j (d.wrap v)).NodeTyped := by
  subst hj
  rw [← ofScalar_int64 hd.2.2]
  exact ofScalar_typed hd.1 hd.2.1 _

/-- The cast reduces the number that the literal denotes. -/
theorem reduces_denote (hd : d.ScalarInteger) (e : DType) :
    d.Reduces (e.denote v) (d.denote (d.wrap v)) := by
  rw [DType.reduces_iff hd.1 hd.2.2, DType.residue_denote hd.1,
    DType.denote_wrap_eq_residue hd.1 hd.2.2]

/-! ### All casts -/

/-- By induction on the types: the node in between is typed, so the rest of the
chain starts from a literal like the first one. -/
theorem Build.exists_castThrough (he : (intImm i v).NodeTyped) {ds : List DType}
    (hds : ∀ d ∈ ds, d.ScalarInteger) (s : Session) :
    ∃ j u s', Yields (castThrough (.intImm i v) ds) s (.intImm j u) s' ∧
      j.dtype = ds.getLastD i.dtype ∧
      DType.ReducesThrough (i.dtype.denote v) ds (j.dtype.denote u) := by
  induction ds generalizing i v s with
  | nil => exact ⟨i, v, s, rfl, rfl, .nil _⟩
  | cons d ds ih =>
    obtain ⟨hd, hds'⟩ := List.forall_mem_cons.mp hds
    obtain ⟨k, s₁, hrun, hk⟩ := exists_cast_intImm he hd s
    obtain ⟨j, u, s', hrun', hj, hred⟩ := ih (intImm_wrap_typed hd hk) hds' s₁
    rw [hk] at hj hred
    refine ⟨j, u, s', ?_, ?_, .cons (reduces_denote hd i.dtype) hred⟩
    · rw [castThrough, List.foldlM_cons]
      exact yields_bind.mpr ⟨_, s₁, hrun, hrun'⟩
    · rw [hj, List.getLastD_cons]

/-- **A chain of integer casts reduces the integer type by type.** For an
integer literal of a run, casts to any scalar integer types one after the other
succeed. They end with an integer literal of the last type, and the integer
that it denotes is the first one reduced to each type in turn: to whether it is
zero for `bool`, otherwise to the number of the range that is congruent modulo
`2 ^ bits`. If no type of the chain is `bool` or narrower than the last one, the
literal is equal to that of the direct cast. -/
theorem castThrough_reduces {w : World} (h : Reachable w) (hx : w.Has (.intImm i v))
    {ds : List DType} (hds : ∀ d ∈ ds, d.ScalarInteger) (s : Session) :
    ∃ j u s', Yields (castThrough (.intImm i v) ds) s (.intImm j u) s' ∧
      j.dtype = ds.getLastD i.dtype ∧
      DType.ReducesThrough (i.dtype.denote v) ds (j.dtype.denote u) ∧
      ∀ d, ds.getLast? = some d → (∀ t ∈ ds, t.isBool = false ∧ d.bits ≤ t.bits) → ∀ s₀,
        ∃ e s₁, Yields (cast (.intImm i v) d) s₀ e s₁ ∧ (intImm j u).equal e := by
  have he : (intImm i v).NodeTyped := h.nodeTyped hx
  obtain ⟨j, u, s', hrun, hj, hred⟩ := exists_castThrough he hds s
  refine ⟨j, u, s', hrun, hj, hred, fun d hlast hwide s₀ => ?_⟩
  have hd : d.ScalarInteger := hds d (List.mem_of_getLast? hlast)
  obtain ⟨k, s₁, hdirect, hk⟩ := exists_cast_intImm he hd s₀
  refine ⟨_, s₁, hdirect, ?_⟩
  have hjd : j.dtype = d := by
    rw [hj, List.getLastD_eq_getLast?, hlast]
    rfl
  have hu : u = d.wrap v := by
    refine DType.denote_inj (d := d) ?_
    rw [← hjd, hred.eq_residue hds hlast hwide, hjd, DType.residue_denote hd.1,
      DType.denote_wrap_eq_residue hd.1 hd.2.2]
  rw [equal, hu, hjd, hk]
  simp

namespace World

/-- The number -1, as a default integer. -/
def minusOne : Expr := .intImm ⟨0, .int 32⟩ (-1)

/-- A run that makes that number. -/
def negative : World := ({} : World).perform (.constant (.int32 (-1)))

theorem reachable_negative : Reachable negative :=
  Reachable.start.perform (.constant (.int32 (-1))) (List.forall_mem_nil _) (List.forall_mem_nil _)

theorem negative_has_minusOne : negative.Has minusOne := ⟨_, .head _, .root⟩

end World

/-- The number -1 by way of `uint64`, where it is `2 ^ 64 - 1`, to `int8`. -/
theorem minusOne_reduces : Reachable World.negative ∧ World.negative.Has World.minusOne ∧
    (∀ d ∈ [DType.uint 64, .int 8], d.ScalarInteger) ∧ ∀ s,
    ∃ j u s', Yields (castThrough World.minusOne [.uint 64, .int 8]) s (.intImm j u) s' ∧
      j.dtype = .int 8 ∧ DType.ReducesThrough (-1) [.uint 64, .int 8] (j.dtype.denote u) ∧
      ∀ s₀, ∃ e s₁, Yields (cast World.minusOne (.int 8)) s₀ e s₁ ∧ (intImm j u).equal e := by
  have hds : ∀ d ∈ [DType.uint 64, .int 8], d.ScalarInteger :=
    List.forall_mem_cons.mpr ⟨⟨by decide, rfl, rfl⟩,
      List.forall_mem_singleton.mpr ⟨by decide, rfl, rfl⟩⟩
  refine ⟨World.reachable_negative, World.negative_has_minusOne, hds, fun s => ?_⟩
  obtain ⟨j, u, s', hrun, hj, hred, hdirect⟩ :=
    castThrough_reduces World.reachable_negative World.negative_has_minusOne hds s
  exact ⟨j, u, s', hrun, hj, hred, hdirect _ rfl (by decide)⟩

end Lanewise
