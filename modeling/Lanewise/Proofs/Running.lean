/-
# Running builds

A build is run from a session and ends with a node or an error and with the
session after it. One that goes through in two parts goes through in each, the
second from where the first one ends.

Key definitions: `Build.Gives`, `Build.Yields`.
Key theorems: `Build.Yields.unique`, `Build.yields_bind`, `Build.gives_bind`.
-/
import Lanewise.Build.Session

namespace Lanewise.Build

variable {α β : Type} {s s' : Session} {a : α} {b : β}

/-- From the session `s` the build `f`, which cannot fail, gives `a` and leaves `s'`. -/
def Gives (f : NodeM α) (s : Session) (a : α) (s' : Session) : Prop := f.run s = (a, s')

/-- From the session `s` the build `f` succeeds with `a` and leaves `s'`. -/
def Yields (f : BuildM α) (s : Session) (a : α) (s' : Session) : Prop := f.run.run s = (.ok a, s')

/-- A build ends in one way. -/
theorem Yields.unique {f : BuildM α} {a b : α} {t t' : Session} (h : Yields f s a t)
    (h' : Yields f s b t') : a = b ∧ t = t' := by
  have heq := h.symm.trans h'
  exact ⟨Except.ok.inj (congrArg Prod.fst heq), congrArg Prod.snd heq⟩

/-! ### One build after another -/

theorem run_bind_ok {f : BuildM α} {g : α → BuildM β} (h : f.run.run s = (.ok a, s')) :
    (f >>= g).run.run s = (g a).run.run s' := by
  simp only [ExceptT.run_bind, StateT.run_bind]
  rw [h]
  rfl

theorem run_bind_error {f : BuildM α} {g : α → BuildM β} {err : BuildError}
    (h : f.run.run s = (.error err, s')) : (f >>= g).run.run s = (.error err, s') := by
  simp only [ExceptT.run_bind, StateT.run_bind]
  rw [h]
  rfl

theorem gives_bind {f : NodeM α} {g : α → NodeM β} :
    Gives (f >>= g) s b s' ↔ ∃ a s₁, Gives f s a s₁ ∧ Gives (g a) s₁ b s' :=
  ⟨fun h => ⟨_, _, rfl, h⟩, fun ⟨_, _, hf, hg⟩ => by
    unfold Gives at hf hg ⊢
    rw [StateT.run_bind, hf]
    exact hg⟩

/-- A run of two actions that succeeds is one of each. -/
theorem yields_bind {f : BuildM α} {g : α → BuildM β} :
    Yields (f >>= g) s b s' ↔ ∃ a s₁, Yields f s a s₁ ∧ Yields (g a) s₁ b s' := by
  constructor
  · intro h
    cases hf : f.run.run s with
    | mk result s₁ =>
      cases result with
      | ok a => exact ⟨a, s₁, hf, (run_bind_ok hf).symm.trans h⟩
      | error err =>
        have := (run_bind_error (g := g) hf).symm.trans h
        cases this
  · rintro ⟨a, s₁, hf, hg⟩
    exact (run_bind_ok hf).trans hg

/-! ### Single builds -/

theorem yields_lift {f : NodeM α} : Yields (liftM f) s a s' ↔ Gives f s a s' := by
  constructor
  · intro h
    have h1 : (f.run s).1 = a := Except.ok.inj (congrArg Prod.fst h)
    have h2 : (f.run s).2 = s' := congrArg Prod.snd h
    exact Prod.ext h1 h2
  · intro h
    have : (liftM f : BuildM α).run.run s = (.ok (f.run s).1, (f.run s).2) := rfl
    rw [Yields, this, h]

theorem yields_check {x : Except BuildError α} :
    Yields (liftM x) s a s' ↔ x = .ok a ∧ s' = s := by
  constructor
  · intro h
    cases x with
    | ok b =>
      cases h
      exact ⟨rfl, rfl⟩
    | error err => cases h
  · rintro ⟨rfl, rfl⟩
    rfl

theorem gives_pure {c : α} : Gives (pure c) s a s' ↔ a = c ∧ s' = s := by
  constructor
  · intro h
    cases h
    exact ⟨rfl, rfl⟩
  · rintro ⟨rfl, rfl⟩
    rfl

end Lanewise.Build
