/-
# Quoted strings end where they end

No written character is the beginning of another one, and none begins with the
closing quote. So a quoted string tells its characters one by one, whatever
follows it.

Key theorems: `Text.escape_append_inj`, `Text.quoted_append_inj`.
-/
import Lanewise.Proofs.Words
import Lanewise.Text.Quoted

namespace Lanewise.Text

variable {c d : Char} {r t : List Char}

/-! ### One character -/

/-- The character that a letter after the backslash means. -/
def unescape : Char → Char
  | '0' => '\x00'
  | 't' => '\t'
  | 'n' => '\n'
  | 'r' => '\r'
  | c => c

/-- The three ways to write a character: a letter, its code point or itself. -/
theorem escape_cases (c : Char) :
    (∃ k, escape c = ['\\', k] ∧ k ≠ 'u' ∧ unescape k = c) ∨
    escape c = ['\\', 'u', '\x7b'] ++ Nat.toDigits 16 c.toNat ++ ['\x7d'] ∨
    escape c = [c] ∧ c ≠ '\\' ∧ c ≠ '"' := by
  unfold escape
  split
  · next h => exact .inl ⟨'0', rfl, by decide, h.symm⟩
  split
  · next h => exact .inl ⟨'t', rfl, by decide, h.symm⟩
  split
  · next h => exact .inl ⟨'n', rfl, by decide, h.symm⟩
  split
  · next h => exact .inl ⟨'r', rfl, by decide, h.symm⟩
  split
  · next h =>
    refine .inl ⟨c, rfl, ?_⟩
    rcases Bool.or_eq_true_iff.mp h with h | h
    · obtain rfl : c = '"' := of_decide_eq_true h
      decide
    · obtain rfl : c = '\\' := of_decide_eq_true h
      decide
  · next h =>
    split
    · exact .inr (.inl rfl)
    · refine .inr (.inr ⟨rfl, ?_, ?_⟩)
      · rintro rfl
        exact h (by decide)
      · rintro rfl
        exact h (by decide)

theorem escape_append_ne_quote : escape c ++ r ≠ '"' :: t := by
  intro h
  rcases escape_cases c with ⟨k, hc, -⟩ | hc | ⟨hc, -, hq⟩
  · rw [hc] at h
    exact absurd (List.cons.inj h).1 (by decide)
  · rw [hc] at h
    exact absurd (List.cons.inj h).1 (by decide)
  · rw [hc] at h
    exact hq (List.cons.inj h).1

theorem ne_brace_of_mem_toDigits {x : Char} {n : Nat} (h : x ∈ Nat.toDigits 16 n) :
    x != '\x7d' := by
  obtain ⟨k, hk, rfl⟩ := exists_digitChar_of_mem_toDigits (by decide) h
  have hall : ∀ i : Fin 16, i.val.digitChar != '\x7d' := by decide
  exact hall ⟨k, hk⟩

/-- No written character is the beginning of another one. -/
theorem escape_append_inj (h : escape c ++ r = escape d ++ t) : c = d ∧ r = t := by
  rcases escape_cases c with ⟨k, hc, hk, hkc⟩ | hc | ⟨hc, hcb, -⟩ <;>
    rcases escape_cases d with ⟨l, hd, hl, hld⟩ | hd | ⟨hd, hdb, -⟩ <;>
    rw [hc, hd] at h <;>
    simp only [List.cons_append, List.nil_append, List.append_assoc, List.cons.injEq] at h
  · obtain ⟨-, hkl, hrest⟩ := h
    exact ⟨by rw [← hkc, ← hld, hkl], hrest⟩
  · exact absurd h.2.1 hk
  · exact absurd h.1.symm hdb
  · exact absurd h.2.1.symm hl
  · have hstop : ∀ x : List Char, Stops (· != '\x7d') ('\x7d' :: x) := fun _ => rfl
    obtain ⟨hdigits, hrest⟩ := append_inj_of_stops (fun _ => ne_brace_of_mem_toDigits)
      (fun _ => ne_brace_of_mem_toDigits) (hstop r) (hstop t) h.2.2.2
    have hnat : c.toNat = d.toNat := toDigits_inj (by decide) (by decide) hdigits
    exact ⟨Char.toNat_inj.mp hnat, (List.cons.inj hrest).2⟩
  · exact absurd h.1.symm hdb
  · exact absurd h.1 hcb
  · exact absurd h.1 hcb
  · exact h

/-! ### Strings -/

theorem flatMap_escape_append_inj {a b : List Char}
    (h : a.flatMap escape ++ '"' :: r = b.flatMap escape ++ '"' :: t) : a = b ∧ r = t := by
  induction a generalizing b with
  | nil =>
    cases b with
    | nil => exact ⟨rfl, (List.cons.inj h).2⟩
    | cons d b =>
      rw [List.flatMap_cons, List.append_assoc] at h
      exact absurd h.symm escape_append_ne_quote
  | cons c a ih =>
    cases b with
    | nil =>
      rw [List.flatMap_cons, List.append_assoc] at h
      exact absurd h escape_append_ne_quote
    | cons d b =>
      rw [List.flatMap_cons, List.flatMap_cons, List.append_assoc, List.append_assoc] at h
      obtain ⟨rfl, htail⟩ := escape_append_inj h
      obtain ⟨rfl, hrest⟩ := ih htail
      exact ⟨rfl, hrest⟩

/-- **A quoted string tells its characters**, whatever follows it. -/
theorem quoted_append_inj {a b : String} (h : (quoted a).toList ++ r = (quoted b).toList ++ t) :
    a = b ∧ r = t := by
  simp only [quoted, String.toList_ofList, List.cons_append, List.append_assoc,
    List.nil_append, List.cons.injEq, true_and] at h
  obtain ⟨hab, hrest⟩ := flatMap_escape_append_inj h
  exact ⟨String.toList_inj.mp hab, hrest⟩

end Lanewise.Text
