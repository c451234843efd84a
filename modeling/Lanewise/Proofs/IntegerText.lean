/-
# The texts of native integers

A native integer that becomes a literal and is printed goes through its type, a
word of 64 bits, the width of the type and a signed numeral. Values of a
declared width are in the range of their type, so the numeral is theirs, up to
the largest signed word. Numbers without a declared width count as `int32` and
are printed as what that type keeps of them.

Key definitions: `Scalar.print`.
Key theorems: `Expr.renderInt_inj`, `Scalar.print_eq_renderInt`, `integer_texts`.
-/
import Lanewise.Proofs.Printing
import Lanewise.Proofs.Residue

namespace Lanewise

/-- The text of the literal that is made of the value. -/
def Scalar.print (v : Scalar) (s : Session) : String := ((Build.constant v).run s).1.render

/-! ### One literal -/

/-- An integer literal tells its type and its word. -/
theorem Expr.renderInt_inj {d e : DType} {u v : Int64} (hd : d.Valid) (he : e.Valid) :
    renderInt d u = renderInt e v ↔ d = e ∧ u = v := by
  constructor
  · intro h
    refine Written.ofInt_inj (Written.text_inj (Written.wf_ofInt hd u) (Written.wf_ofInt he v) ?_)
    calc (Written.ofInt d u).text = (renderInt d u).toList := text_written (.intImm ⟨0, d⟩ u)
      _ = (renderInt e v).toList := by rw [h]
      _ = (Written.ofInt e v).text := (text_written (.intImm ⟨0, e⟩ v)).symm
  · rintro ⟨rfl, rfl⟩
    rfl

namespace Scalar

variable {u v : Scalar} {m n : Int} {s t : Session}

theorem isFloat_dtype (h : v.integer? = some n) : v.dtype.isFloat = false := by
  cases v with
  | float32 | float64 | untypedFloat => cases h
  | _ => rfl

/-- The text is that of the word which a lane of the type keeps. -/
theorem print_eq_renderInt (h : v.integer? = some n) (s : Session) :
    v.print s = Expr.renderInt v.dtype (v.dtype.wrap (.ofInt n)) := by
  have hmade : ((Build.constant v).run s).1 = .ofScalar ⟨s.next, v.dtype⟩ v := rfl
  rw [print, hmade, Expr.ofScalar_eq_intImm h (isFloat_dtype h)]
  rfl

/-! ### Declared widths -/

/-- A value of a declared width is told by its type and its integer. -/
theorem eq_of_dtype_eq (hv : v.integer? = some n) (hu : u.integer? = some n)
    (hv' : ∀ x, v ≠ .untypedInt x) (hu' : ∀ x, u ≠ .untypedInt x) (hd : v.dtype = u.dtype) :
    v = u := by
  have hn : v.integer? = u.integer? := hv.trans hu.symm
  have hi : v.integer? ≠ none := by simp [hv]
  clear hv hu
  -- two forms differ in their types, and two values of one form in their integers
  cases v <;> cases u <;>
    simp_all [dtype, DType.bool, DType.uint, DType.int, integer?, UInt8.toNat_inj,
      UInt16.toNat_inj, UInt32.toNat_inj, UInt64.toNat_inj, Int8.toInt_inj, Int16.toInt_inj,
      Int32.toInt_inj, Int64.toInt_inj]
  case bool.bool a b => exact (by decide : ∀ a b : Bool, a.toNat = b.toNat → a = b) a b hn

/-- Such a value is printed as its integer, if a signed word has it. -/
theorem print_of_declared (hv : v.integer? = some n) (hv' : ∀ x, v ≠ .untypedInt x)
    (hn : n < 2 ^ 63) (s : Session) : v.print s =
      (if v.dtype = .int 32 then "" else "(" ++ v.dtype.text ++ ")") ++ n.repr := by
  have hholds : v.dtype.Holds n := holds_dtype hv hv'
  have hword : (Int64.ofInt n).toInt = n :=
    Int64.toInt_ofInt_of_le (hholds.bounds v.dtype_valid).1 hn
  rw [print_eq_renderInt hv, DType.wrap_ofInt v.dtype_valid hholds, Expr.renderInt, hword]
  by_cases h32 : v.dtype = .int 32
  · rw [if_pos h32, if_pos h32, String.empty_append]
  · rw [if_neg h32, if_neg h32]

/-- The text of such a value tells it, also where the numeral is not its own. -/
theorem print_inj (hv : v.integer? = some n) (hu : u.integer? = some m)
    (hv' : ∀ x, v ≠ .untypedInt x) (hu' : ∀ x, u ≠ .untypedInt x) (h : v.print s = u.print t) :
    v = u := by
  rw [print_eq_renderInt hv, print_eq_renderInt hu,
    Expr.renderInt_inj v.dtype_valid u.dtype_valid] at h
  obtain ⟨hd, hword⟩ := h
  have hvn := DType.denote_wrap v.dtype_valid (holds_dtype hv hv')
  have hum := DType.denote_wrap u.dtype_valid (holds_dtype hu hu')
  have hnm : n = m := by rw [← hvn, ← hum, hword, hd]
  exact eq_of_dtype_eq hv (hnm ▸ hu) hv' hu' hd

theorem print_eq_iff (hv : v.integer? = some n) (hu : u.integer? = some m)
    (hv' : ∀ x, v ≠ .untypedInt x) (hu' : ∀ x, u ≠ .untypedInt x) :
    v.print s = u.print t ↔ v = u := by
  refine ⟨print_inj hv hu hv' hu', ?_⟩
  rintro rfl
  rw [print_eq_renderInt hv s, print_eq_renderInt hv t]

/-! ### Numbers without a width -/

/-- A number is printed as what `int32` keeps of it. -/
theorem print_untypedInt (x : Int64) (s : Session) :
    (untypedInt x).print s = ((DType.int 32).residue x.toInt).repr := by
  have hd : (DType.int 32).Valid := by decide
  have hword : ((DType.int 32).wrap x).toInt = (DType.int 32).residue x.toInt := by
    rw [DType.wrap_eq_ofInt_residue hd rfl]
    exact (DType.holds_residue hd rfl x.toInt).toInt_ofInt hd (by decide)
  rw [print_eq_renderInt rfl, Int64.ofInt_toInt, ← hword]
  rfl

theorem print_untypedInt_eq_iff (x y : Int64) (s t : Session) :
    (untypedInt x).print s = (untypedInt y).print t ↔ x.toInt ≡ y.toInt [ZMOD 2 ^ 32] := by
  have hb : (DType.int 32).isBool = false := rfl
  rw [print_untypedInt, print_untypedInt]
  constructor
  · intro h
    have hres : (DType.int 32).residue x.toInt = (DType.int 32).residue y.toInt :=
      Int.repr_inj.mp h
    calc x.toInt ≡ (DType.int 32).residue x.toInt [ZMOD 2 ^ 32] :=
          (DType.residue_modEq hb _).symm
      _ = (DType.int 32).residue y.toInt := hres
      _ ≡ y.toInt [ZMOD 2 ^ 32] := DType.residue_modEq hb _
  · intro h
    rw [DType.residue_congr hb h]

end Scalar

/-- **Native integers keep their value in the text, at their width.** A value of
a declared width below `2 ^ 63` is printed as the numeral of the integer that it
is, with its type before it unless that is `int32`, and two values of declared
widths have one text exactly if they are equal. A number without a declared
width is printed, with no type, as the numeral of the number of `int32` that is
congruent to it modulo `2 ^ 32`, and two of them have one text exactly if they
are congruent. -/
theorem integer_texts :
    (∀ (v : Scalar) n, v.integer? = some n → (∀ x, v ≠ .untypedInt x) → n < 2 ^ 63 → ∀ s,
      v.print s = (if v.dtype = .int 32 then "" else "(" ++ v.dtype.text ++ ")") ++ n.repr) ∧
    (∀ (v u : Scalar) m n, v.integer? = some m → u.integer? = some n →
      (∀ x, v ≠ .untypedInt x) → (∀ x, u ≠ .untypedInt x) → ∀ s t,
      (v.print s = u.print t ↔ v = u)) ∧
    (∀ x s, ∃ m, (DType.int 32).Holds m ∧ m ≡ x.toInt [ZMOD 2 ^ 32] ∧
      (Scalar.untypedInt x).print s = m.repr) ∧
    ∀ x y s t, ((Scalar.untypedInt x).print s = (Scalar.untypedInt y).print t ↔
      x.toInt ≡ y.toInt [ZMOD 2 ^ 32]) := by
  refine ⟨fun v n hv hv' hn s => Scalar.print_of_declared hv hv' hn s,
    fun v u m n hv hu hv' hu' s t => Scalar.print_eq_iff hv hu hv' hu', fun x s => ?_,
    Scalar.print_untypedInt_eq_iff⟩
  exact ⟨_, DType.holds_residue (by decide) rfl x.toInt, DType.residue_modEq rfl _,
    Scalar.print_untypedInt x s⟩

/-- The least `int8` has its own text. -/
theorem lowest_int8_text : (Scalar.int8 (-128)).integer? = some (-128) ∧
    (Scalar.uint8 128).integer? = some 128 ∧ ∀ s t,
    (Scalar.int8 (-128)).print s = "(int8)-128" ∧
      (Scalar.int8 (-128)).print s ≠ (Scalar.uint8 128).print t := by
  have hlow : (Scalar.int8 (-128)).integer? = some (-128) := by decide
  have hhigh : (Scalar.uint8 128).integer? = some 128 := by decide
  obtain ⟨htext, hiff, -, -⟩ := integer_texts
  refine ⟨hlow, hhigh, fun s t => ⟨?_, fun h => ?_⟩⟩
  · rw [htext _ _ hlow (fun _ h => nomatch h) (by decide) s]
    decide
  · exact nomatch (hiff _ _ _ _ hlow hhigh (fun _ h => nomatch h) (fun _ h => nomatch h) s t).mp h

/-- The number `2 ^ 32` without a declared width has the text of 0, and the
`uint64` that is `2 ^ 63` has a numeral with a sign. -/
theorem wide_integer_texts : (Scalar.untypedInt 4294967296).integer? = some (2 ^ 32) ∧
    (∀ s, (Scalar.untypedInt 4294967296).print s ≠ (2 ^ 32 : Int).repr ∧
      (Scalar.untypedInt 4294967296).print s = (Scalar.untypedInt 0).print s) ∧
    Scalar.untypedInt 4294967296 ≠ .untypedInt 0 ∧
    (Scalar.uint64 9223372036854775808).integer? = some (2 ^ 63) ∧
    ∀ s, (Scalar.uint64 9223372036854775808).print s ≠
      "(" ++ (DType.uint 64).text ++ ")" ++ (2 ^ 63 : Int).repr := by
  refine ⟨by decide, fun s => ⟨?_, ?_⟩, by decide, by decide, fun s => ?_⟩
  · rw [Scalar.print_untypedInt]
    decide
  · rw [Scalar.print_untypedInt, Scalar.print_untypedInt]
    decide
  · rw [Scalar.print_eq_renderInt (n := 2 ^ 63) (by decide)]
    decide

end Lanewise
