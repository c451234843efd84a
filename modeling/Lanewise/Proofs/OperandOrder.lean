/-
# The order of the operands

An operator looks at its operands one after the other: the left one is checked
first, and the right one is asked first whether it adapts. The order shows in
one place only, two literals of one form and of two types, where either could
take the type of the other. All other operands, given in the other order, make a
node of the same type with the children changed over, or fail for a reason of
the same kind.

Key definitions: `Expr.Rivals`.
Key theorems: `Expr.joined_comm`, `Operator.operandType_swap`, `operands_swap`.
-/
import Lanewise.Proofs.Congruence
import Lanewise.Proofs.Handles

namespace Lanewise

/-! ### The common type -/

namespace Expr

/-- Two literals of one form and of two types. -/
def Rivals (a b : Expr) : Prop :=
  (a.isIntLiteral ∧ b.isIntLiteral ∨ a.isFloatLiteral ∧ b.isFloatLiteral) ∧ a.dtype ≠ b.dtype

variable {a b : Expr}

/-- Only rivals adapt to each other. -/
theorem rivals_of_adapts (ha : a.NodeTyped) (hb : b.NodeTyped) (hne : a.dtype ≠ b.dtype)
    (hab : a.Adapts b.dtype) (hba : b.Adapts a.dtype) : a.Rivals b := by
  refine ⟨?_, hne⟩
  rcases hab with ⟨hai, -⟩ | ⟨haf, hbf⟩
  · rcases hba with ⟨hbi, -⟩ | ⟨-, haf⟩
    · exact .inl ⟨hai, hbi⟩
    · exact absurd ((ha.isFloat_of_isIntLiteral hai).symm.trans haf) Bool.false_ne_true
  · rcases hba with ⟨hbi, -⟩ | ⟨hbl, -⟩
    · exact absurd ((hb.isFloat_of_isIntLiteral hbi).symm.trans hbf) Bool.false_ne_true
    · exact .inr ⟨haf, hbl⟩

theorem joinedElement_comm_of_lanes_ne (ha : a.NodeTyped) (hb : b.NodeTyped)
    (hr : a.Reconcilable b) (hl : a.lanes ≠ b.lanes) : a.joinedElement b = b.joinedElement a := by
  have hs : a.dtype.isScalar ≠ b.dtype.isScalar := (hr.1.resolve_left hl).1
  rw [Build.joinedElement_of_lanes_ne hl, Build.joinedElement_of_lanes_ne hl.symm,
    ha.valid.isVector_eq, hb.valid.isVector_eq, Bool.eq_not.mpr hs]
  cases b.dtype.isScalar <;> rfl

theorem joinedElement_comm_of_lanes_eq (ha : a.NodeTyped) (hb : b.NodeTyped) (hn : ¬ a.Rivals b)
    (hr : a.Reconcilable b) (hl : a.lanes = b.lanes) : a.joinedElement b = b.joinedElement a := by
  have hne : ¬ a.lanes ≠ b.lanes := fun h => h hl
  have hne' : ¬ b.lanes ≠ a.lanes := fun h => h hl.symm
  unfold joinedElement
  by_cases he : a.dtype.element = b.dtype.element
  · rw [if_pos he, if_pos he.symm, he]
  · rw [if_neg he, if_neg (Ne.symm he), if_neg hne, if_neg hne']
    by_cases hba : b.Adapts a.dtype
    · have hab : ¬ a.Adapts b.dtype := fun hab =>
        hn (rivals_of_adapts ha hb (fun h => he (congrArg DType.element h)) hab hba)
      rw [if_pos hba, if_neg hab, if_pos hba]
    · by_cases hab : a.Adapts b.dtype
      · rw [if_neg hba, if_pos hab, if_pos hab]
      · -- no literal decides, so one is a float and the other one an integer
        rw [if_neg hba, if_neg hab, if_neg hab, if_neg hba]
        rcases hr.2 hl with h | h | h | ⟨haf, hbi⟩ | ⟨hai, hbf⟩
        · exact absurd h he
        · exact absurd h hab
        · exact absurd h hba
        · rw [if_pos haf, DType.isFloat_of_isIntegral hbi]
          rfl
        · rw [DType.isFloat_of_isIntegral hai, if_pos hbf]
          rfl

theorem max_lanes_comm (ha : a.NodeTyped) (hb : b.NodeTyped) (hr : a.Reconcilable b) :
    max a.lanes b.lanes = max b.lanes a.lanes := by
  have ha0 := ha.valid.lanes_ne_zero
  have hb0 := hb.valid.lanes_ne_zero
  by_cases hl : a.lanes = b.lanes
  · rw [hl]
  · have hs : a.dtype.isScalar ≠ b.dtype.isScalar := (hr.1.resolve_left hl).1
    by_cases has : a.dtype.isScalar
    · rw [max_lanes_right has hb0, max_lanes_left hb0 has]
    · have hbs : b.dtype.isScalar := by
        rw [Bool.eq_not.mpr hs.symm, Bool.eq_false_iff.mpr has]
        rfl
      rw [max_lanes_left ha0 hbs, max_lanes_right hbs ha0]

/-- Operands that are no rivals agree on one type in either order. -/
theorem joined_comm (ha : a.NodeTyped) (hb : b.NodeTyped) (hn : ¬ a.Rivals b)
    (hr : a.Reconcilable b) : a.joined b = b.joined a := by
  have hel : a.joinedElement b = b.joinedElement a := by
    by_cases hl : a.lanes = b.lanes
    · exact joinedElement_comm_of_lanes_eq ha hb hn hr hl
    · exact joinedElement_comm_of_lanes_ne ha hb hr hl
  rw [joined, joined, hel, max_lanes_comm ha hb hr]

end Expr

/-! ### One type, or failures of one kind -/

namespace Operator

open Build Lanewise.Expr

variable {op : Operator} {a b : Expr}

/-- The two orders of the operands lead to one type, or to failures of one kind. -/
def SwapsTypes (op : Operator) (a b : Expr) : Prop :=
  (∃ d, op.operandType a b = .ok d ∧ op.operandType b a = .ok d) ∨
    ∃ err err', op.operandType a b = .error err ∧ op.operandType b a = .error err' ∧
      err.kind = err'.kind

/-- Operands that the operator takes either agree on a type or mismatch. -/
theorem swapsTypes_of_takes (ha : a.NodeTyped) (hb : b.NodeTyped) (hn : ¬ a.Rivals b)
    (hta : op.Takes a.dtype) (htb : op.Takes b.dtype) : op.SwapsTypes a b := by
  have hab := (operandType_of_takes hta htb).trans (commonType_eq op.name ha hb)
  have hba := (operandType_of_takes htb hta).trans (commonType_eq op.name hb ha)
  by_cases hr : a.Reconcilable b
  · rw [if_pos hr] at hab
    rw [if_pos (reconcilable_comm.mp hr), ← joined_comm ha hb hn hr] at hba
    exact .inl ⟨_, hab, hba⟩
  · rw [if_neg hr] at hab
    rw [if_neg (mt reconcilable_comm.mp hr)] at hba
    exact .inr ⟨_, _, hab, hba, rfl⟩

/-- The order of the operands decides neither the common type nor the kind of failure,
unless they are rivals. -/
theorem operandType_swap (ha : a.NodeTyped) (hb : b.NodeTyped) (hn : ¬ a.Rivals b) :
    op.SwapsTypes a b := by
  cases op with
  | binary f =>
    by_cases hh : f.isComparison = false ∧ (a.dtype.isHandle ∨ b.dtype.isHandle)
    · obtain ⟨_, _, hab⟩ := check_handle hh.1 hh.2
      obtain ⟨_, _, hba⟩ := check_handle hh.1 hh.2.symm
      exact .inr ⟨_, _, operandType_of_check_error hab, operandType_of_check_error hba, rfl⟩
    · by_cases hl : f.isLogical ∧ ¬ (a.dtype.isBool ∧ b.dtype.isBool)
      · have hh' : ¬ (f.isComparison = false ∧ (b.dtype.isHandle ∨ a.dtype.isHandle)) :=
          fun h => hh ⟨h.1, h.2.symm⟩
        obtain ⟨_, hab⟩ := check_not_bool hh hl.1 hl.2
        obtain ⟨_, hba⟩ := check_not_bool hh' hl.1 fun h => hl.2 h.symm
        exact .inr ⟨_, _, operandType_of_check_error hab, operandType_of_check_error hba, rfl⟩
      · obtain ⟨hta, htb⟩ := takes_of_not_refused hh hl
        exact swapsTypes_of_takes ha hb hn hta htb
  | bitwise f =>
    by_cases hi : a.dtype.isIntegral ∧ b.dtype.isIntegral
    · exact swapsTypes_of_takes ha hb hn hi.1 hi.2
    · obtain ⟨_, hab⟩ := bitwise_not_integral (f := f) hi
      obtain ⟨_, hba⟩ := bitwise_not_integral (f := f) fun h => hi h.symm
      exact .inr ⟨_, _, hab, hba, rfl⟩

end Operator

/-! ### The nodes -/

open Build

/-- One operand, coerced twice to one type. -/
theorem Build.equal_of_coerce {d : DType} {e x y : Expr} {s s' t t' : Session}
    (hn : e.isNaNLiteral = false) (hx : Gives (coerce d e) s x s')
    (hy : Gives (coerce d e) t y t') : x.equal y := by
  have hagree := coerce_agree (.inl ⟨rfl, hn⟩ : e.Interchangeable e) d s t
  rw [hx, hy] at hagree
  exact hagree.equal

/-- **The order of the operands does not change the typing.** For two expressions
of a run that are not two literals of one form and of two types, an operator
makes a node in either order or in none. The nodes have one type, and their
children are equal crosswise if no operand is NaN; the failures are of one kind. -/
theorem operands_swap {w : World} (h : Reachable w) {a b : Expr} (ha : w.Has a) (hb : w.Has b)
    (hn : ¬ a.Rivals b) (op : Operator) (s t : Session) :
    (∃ i j lhs rhs lhs' rhs', ((op.build a b).run.run s).1 = .ok (op.node i lhs rhs) ∧
      ((op.build b a).run.run t).1 = .ok (op.node j lhs' rhs') ∧ i.dtype = j.dtype ∧
      (a.isNaNLiteral = false → b.isNaNLiteral = false → lhs.equal rhs' ∧ rhs.equal lhs')) ∨
    ∃ err err', ((op.build a b).run.run s).1 = .error err ∧
      ((op.build b a).run.run t).1 = .error err' ∧ err.kind = err'.kind := by
  have hswap : op.SwapsTypes a b := Operator.operandType_swap (h.nodeTyped ha) (h.nodeTyped hb) hn
  rcases hswap with ⟨d, hab, hba⟩ | ⟨err, err', hab, hba, hkind⟩
  · obtain ⟨r, s', hr⟩ := Operator.exists_build hab s
    obtain ⟨r', t', hr'⟩ := Operator.exists_build hba t
    obtain ⟨d₁, lhs, rhs, i, _, _, hd₁, hl, hrhs, hi, rfl⟩ := Operator.build_yields hr
    obtain ⟨d₂, lhs', rhs', j, _, _, hd₂, hl', hrhs', hj, rfl⟩ := Operator.build_yields hr'
    obtain rfl : d = d₁ := Except.ok.inj (hab.symm.trans hd₁)
    obtain rfl : d = d₂ := Except.ok.inj (hba.symm.trans hd₂)
    refine .inl ⟨i, j, lhs, rhs, lhs', rhs', congrArg Prod.fst hr, congrArg Prod.fst hr',
      hi.trans hj.symm, fun hna hnb => ⟨equal_of_coerce hna hl hrhs', equal_of_coerce hnb hrhs hl'⟩⟩
  · rw [Operator.run_build_error hab, Operator.run_build_error hba]
    exact .inr ⟨err, err', rfl, rfl, hkind⟩

example : (Expr.intImm ⟨0, .int 32⟩ 3).joined (.intImm ⟨1, .int 64⟩ 3) = .int 32 ∧
    (Expr.intImm ⟨1, .int 64⟩ 3).joined (.intImm ⟨0, .int 32⟩ 3) = .int 64 := by decide

/-- A vector and a number can be multiplied in either order, and the two nodes
have equal children crosswise. -/
theorem products_swap : Reachable World.products ∧ World.products.Has World.vector ∧
    World.products.Has World.three ∧ ¬ World.vector.Rivals World.three ∧ ∀ s t,
    ∃ i j lhs rhs lhs' rhs',
      ((World.times.build World.vector World.three).run.run s).1 =
        .ok (World.times.node i lhs rhs) ∧
      ((World.times.build World.three World.vector).run.run t).1 =
        .ok (World.times.node j lhs' rhs') ∧
      i.dtype = j.dtype ∧ lhs.equal rhs' ∧ rhs.equal lhs' := by
  have hn : ¬ World.vector.Rivals World.three := by
    rintro ⟨⟨h, -⟩ | ⟨h, -⟩, -⟩ <;> cases h
  refine ⟨World.reachable_products, World.products_has_vector, World.products_has_three, hn,
    fun s t => ?_⟩
  rcases operands_swap World.reachable_products World.products_has_vector
    World.products_has_three hn World.times s t with
    ⟨i, j, lhs, rhs, lhs', rhs', hab, hba, hd, hequal⟩ | ⟨err, _, hab, -, -⟩
  · exact ⟨i, j, lhs, rhs, lhs', rhs', hab, hba, hd, hequal rfl rfl⟩
  · cases hab

end Lanewise
