/-
# The nodes of a session

An inventory of a session is a set of nodes that it can have built: with a node
it has the node's operands, every number in it is one that the session has
given out and names one node, and every node is typed. A builder that works on
nodes of an inventory extends it. `Makes` says so of a builder that cannot
fail and `Tries` of one that can; the rules below put builders together, and
the new node itself is the rule `Makes.node`.

Key definitions: `Inventory`, `Build.Makes`, `Build.Tries`.
Key theorems: `Inventory.add`, `Build.Makes.node`, `Build.Makes.bind`, `Build.Tries.bind`.
-/
import Lanewise.Proofs.Running
import Lanewise.Proofs.WellTyped
import Mathlib.Data.Set.Insert

namespace Lanewise

/-- `P` is a set of nodes of the session `s`. -/
structure Inventory (s : Session) (P : Set Expr) : Prop where
  operands : ∀ e ∈ P, ∀ x ∈ e.operands, x ∈ P
  numbered : ∀ e ∈ P, e.nodeId < s.next
  coherent : ∀ a ∈ P, ∀ b ∈ P, a.nodeId = b.nodeId → a = b
  typed : ∀ e ∈ P, e.NodeTyped

namespace Inventory

variable {s s' : Session} {P : Set Expr}

theorem empty (s : Session) : Inventory s ∅ :=
  ⟨fun _ h => h.elim, fun _ h => h.elim, fun _ h => h.elim, fun _ h => h.elim⟩

theorem occurs (h : Inventory s P) {n e : Expr} (hn : n.Occurs e) (he : e ∈ P) : n ∈ P := by
  induction hn with
  | root => exact he
  | operand hx _ ih => exact ih (h.operands _ he _ hx)

theorem wellTyped (h : Inventory s P) {e : Expr} (he : e ∈ P) : e.WellTyped :=
  fun n hn => h.typed n (h.occurs hn he)

/-- Numbers that are given out stay given out. -/
theorem later (h : Inventory s P) (hs : s.next ≤ s'.next) : Inventory s' P :=
  { h with numbered := fun e he => Nat.lt_of_lt_of_le (h.numbered e he) hs }

/-- A typed node with the next number, over nodes of the inventory, joins it. -/
theorem add (h : Inventory s P) {e : Expr} (hid : e.nodeId = s.next)
    (ho : ∀ x ∈ e.operands, x ∈ P) (ht : e.NodeTyped) (hs : s'.next = s.next + 1) :
    Inventory s' (insert e P) := by
  -- the new number is no older node's, so the number still names one node
  have hne : ∀ x ∈ P, x.nodeId ≠ e.nodeId := fun x hx =>
    Nat.ne_of_lt (hid ▸ h.numbered x hx)
  refine ⟨fun x hx y hy => .inr ?_, fun x hx => ?_, fun a ha b hb hab => ?_, fun x hx => ?_⟩
  · rcases hx with rfl | hx
    · exact ho y hy
    · exact h.operands x hx y hy
  · rcases hx with rfl | hx
    · omega
    · have := h.numbered x hx
      omega
  · rcases ha with rfl | ha <;> rcases hb with rfl | hb
    · rfl
    · exact absurd hab.symm (hne b hb)
    · exact absurd hab (hne a ha)
    · exact h.coherent a ha b hb hab
  · rcases hx with rfl | hx
    · exact ht
    · exact h.typed x hx

end Inventory

namespace Build

/-- On an inventory `P`, the build `f` gives a node of an extended one, with
the property `post`. -/
def Makes (P : Set Expr) (f : NodeM Expr) (post : Expr → Prop) : Prop :=
  ∀ s, Inventory s P → ∃ Q, P ⊆ Q ∧ Inventory (f.run s).2 Q ∧ (f.run s).1 ∈ Q ∧ post (f.run s).1

/-- On an inventory `P`, the build `f` leaves an extended one, and if it gives
a node then one in it with the property `post`. -/
def Tries (P : Set Expr) (f : BuildM Expr) (post : Expr → Prop) : Prop :=
  ∀ s, Inventory s P → ∃ Q, P ⊆ Q ∧ Inventory (f.run.run s).2 Q ∧
    ∀ e, (f.run.run s).1 = .ok e → e ∈ Q ∧ post e

variable {P : Set Expr} {post post' : Expr → Prop}

/-! ### Builds that cannot fail -/

theorem Makes.pure {e : Expr} (he : e ∈ P) (hp : post e) : Makes P (Pure.pure e) post :=
  fun _ hs => ⟨P, subset_rfl, hs, he, hp⟩

/-- The second action may build on all that the first has made. -/
theorem Makes.bind {f : NodeM Expr} {g : Expr → NodeM Expr} (hf : Makes P f post)
    (hg : ∀ Q e, P ⊆ Q → e ∈ Q → post e → Makes Q (g e) post') : Makes P (f >>= g) post' := by
  intro s hs
  obtain ⟨Q, hPQ, hQ, he, hp⟩ := hf s hs
  obtain ⟨R, hQR, hR, hx, hp'⟩ := hg Q _ hPQ he hp _ hQ
  exact ⟨R, hPQ.trans hQR, hR, hx, hp'⟩

theorem Makes.journal (n : Note) {f : NodeM Expr} (hf : Makes P f post) :
    Makes P (do Build.journal n; f) post :=
  fun s hs => hf { s with notes := s.notes ++ [n] } (hs.later (Nat.le_refl _))

/-- The new node `f i`, where `i` is a new head for the type `d`. -/
theorem Makes.node {d : DType} {f : NodeInfo → Expr} (hi : ∀ i, (f i).info = i)
    (ho : ∀ i, ∀ x ∈ (f i).operands, x ∈ P) (ht : ∀ i, i.dtype = d → (f i).NodeTyped) :
    Makes P (do return f (← fresh d)) (·.dtype = d) := by
  intro s hs
  refine ⟨insert (f ⟨s.next, d⟩) P, Set.subset_insert _ _, ?_, Set.mem_insert _ _, ?_⟩
  · exact hs.add (congrArg NodeInfo.id (hi _)) (ho _) (ht _ rfl) rfl
  · exact congrArg NodeInfo.dtype (hi _)

theorem Makes.mono {f : NodeM Expr} (hf : Makes P f post) (h : ∀ e, post e → post' e) :
    Makes P f post' := by
  intro s hs
  obtain ⟨Q, hPQ, hQ, he, hp⟩ := hf s hs
  exact ⟨Q, hPQ, hQ, he, h _ hp⟩

/-! ### Builds that may fail -/

theorem Makes.tries {f : NodeM Expr} (hf : Makes P f post) : Tries P (liftM f) post := by
  intro s hs
  obtain ⟨Q, hPQ, hQ, he, hp⟩ := hf s hs
  refine ⟨Q, hPQ, hQ, fun e h => ?_⟩
  obtain rfl : (f.run s).1 = e := Except.ok.inj h
  exact ⟨he, hp⟩

/-- A new node at the end of a build that may have failed before. -/
theorem Makes.tries_node {d : DType} {mk : NodeInfo → Expr}
    (hf : Makes P (do return mk (← fresh d)) post) :
    Tries P (do return mk (← fresh d)) post := by
  intro s hs
  obtain ⟨Q, hPQ, hQ, he, hp⟩ := hf s hs
  refine ⟨Q, hPQ, hQ, fun e h => ?_⟩
  obtain rfl : mk ⟨s.next, d⟩ = e := Except.ok.inj h
  exact ⟨he, hp⟩

theorem Tries.mono {f : BuildM Expr} (hf : Tries P f post) (h : ∀ e, post e → post' e) :
    Tries P f post' := by
  intro s hs
  obtain ⟨Q, hPQ, hQ, hok⟩ := hf s hs
  exact ⟨Q, hPQ, hQ, fun e he => ⟨(hok e he).1, h _ (hok e he).2⟩⟩

theorem Tries.forget {f : BuildM Expr} (hf : Tries P f post) : Tries P f fun _ => True :=
  hf.mono fun _ _ => trivial

theorem Tries.pure {e : Expr} (he : e ∈ P) (hp : post e) : Tries P (Pure.pure e) post :=
  (Makes.pure he hp).tries

theorem Tries.throw (err : BuildError) : Tries P (MonadExcept.throw err) post :=
  fun _ hs => ⟨P, subset_rfl, hs, fun _ h => by cases h⟩

/-- The second action is run only where the first succeeds, and may build on its result. -/
theorem Tries.bind {f : BuildM Expr} {g : Expr → BuildM Expr} (hf : Tries P f post)
    (hg : ∀ Q e, P ⊆ Q → e ∈ Q → post e → Tries Q (g e) post') : Tries P (f >>= g) post' := by
  intro s hs
  obtain ⟨Q, hPQ, hQ, hok⟩ := hf s hs
  cases h : f.run.run s with
  | mk result s' =>
    rw [h] at hQ hok
    cases result with
    | error err =>
      have hrun : (f >>= g).run.run s = (.error err, s') := run_bind_error h
      rw [hrun]
      exact ⟨Q, hPQ, hQ, fun _ h => by cases h⟩
    | ok e =>
      have hrun : (f >>= g).run.run s = (g e).run.run s' := run_bind_ok h
      obtain ⟨R, hQR, hR, hok'⟩ := hg Q e hPQ (hok e rfl).1 (hok e rfl).2 s' hQ
      rw [hrun]
      exact ⟨R, hPQ.trans hQR, hR, hok'⟩

/-- A check comes first and changes nothing. -/
theorem Tries.check {α : Type} {x : Except BuildError α} {g : α → BuildM Expr}
    (hg : ∀ a, x = .ok a → Tries P (g a) post) : Tries P (liftM x >>= g) post := by
  cases x with
  | error err => exact Tries.throw err
  | ok a => exact hg a rfl

theorem Tries.journal (n : Note) {f : BuildM Expr} (hf : Tries P f post) :
    Tries P (do Build.journal n; f) post :=
  fun s hs => hf { s with notes := s.notes ++ [n] } (hs.later (Nat.le_refl _))

theorem Tries.guard {c : Prop} [Decidable c] {err : BuildError} {f : BuildM Expr}
    (hf : ¬ c → Tries P f post) : Tries P (if c then MonadExcept.throw err else f) post := by
  by_cases h : c
  · rw [if_pos h]
    exact Tries.throw err
  · rw [if_neg h]
    exact hf h

end Build

end Lanewise
