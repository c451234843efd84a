/-
# The grammar of type texts

A text names a type when it is a lane type, alone or followed by `x` and a lane
count. The regular grammar takes the lane type from a table and the count from
the numerals. The reader takes more: a width with zeros in front of it, and one
`+` in front of a count. These two are all: `Spelled` is what is read
(`read?_eq_some_iff`), and `Regular` is `Spelled` without them (`regular_iff`).
A text cuts into lane type and count in one way, because no lane type has an
`x` in it and a category ends where the digits of its width begin.

Key definitions: `DType.Numeral`, `DType.Spelled`, `DType.Regular`, `DType.Padded`.
Key theorems: `DType.read?_eq_some_iff`, `DType.regular_iff`, `parse_iff_spelled`,
`text_round_trip`.
-/
import Lanewise.Proofs.TypeText

namespace Lanewise.DType

open Text

/-! ### The two grammars -/

/-- The digits `ds`, of which there is at least one, write the number `n`. -/
structure Numeral (ds : List Char) (n : Nat) : Prop where
  ne_nil : ds ≠ []
  digits : ∀ c ∈ ds, c.isDigit
  value : Nat.ofDigitChars 10 ds 0 = n

/-- A lane count as it is read. -/
inductive CountSpelled : List Char → UInt16 → Prop
  | plain {ds : List Char} {n : UInt16} (h : Numeral ds n.toNat) : CountSpelled ds n
  | signed {ds : List Char} {n : UInt16} (h : Numeral ds n.toNat) : CountSpelled ('+' :: ds) n

/-- A lane type as it is read. -/
inductive ElementSpelled : List Char → TypeCode → UInt16 → Prop
  | bool : ElementSpelled "bool".toList .uint 1
  | handle : ElementSpelled "handle".toList .handle 64
  | sized {code : TypeCode} {bits : UInt16} {ds : List Char} (hc : code ≠ .handle)
      (hw : bits ∈ code.widths) (hd : Numeral ds bits.toNat) :
      ElementSpelled (code.name.toList ++ ds) code bits

/-- The text is read as the type. -/
inductive Spelled : List Char → DType → Prop
  | scalar {cs : List Char} {code : TypeCode} {bits : UInt16} (h : ElementSpelled cs code bits) :
      Spelled cs ⟨code, bits, 1⟩
  | lanes {cs ds : List Char} {code : TypeCode} {bits n : UInt16} (h : ElementSpelled cs code bits)
      (hn : CountSpelled ds n) (h0 : n ≠ 0) (hh : code = .handle → n = 1) :
      Spelled (cs ++ 'x' :: ds) ⟨code, bits, n⟩

/-- The names of the lane types. -/
def elementNames : List (String × TypeCode × UInt16) :=
  [("bool", .uint, 1), ("handle", .handle, 64), ("int8", .int, 8), ("int16", .int, 16),
    ("int32", .int, 32), ("int64", .int, 64), ("uint1", .uint, 1), ("uint8", .uint, 8),
    ("uint16", .uint, 16), ("uint32", .uint, 32), ("uint64", .uint, 64), ("float16", .float, 16),
    ("float32", .float, 32), ("float64", .float, 64)]

/-- The text is a name of a lane type, alone or followed by `x` and the lanes. -/
inductive Regular : List Char → DType → Prop
  | scalar {name : String} {code : TypeCode} {bits : UInt16}
      (h : (name, code, bits) ∈ elementNames) : Regular name.toList ⟨code, bits, 1⟩
  | lanes {name : String} {code : TypeCode} {bits n : UInt16} {ds : List Char}
      (h : (name, code, bits) ∈ elementNames) (hn : Numeral ds n.toNat) (h0 : n ≠ 0)
      (hh : code = .handle → n = 1) : Regular (name.toList ++ 'x' :: ds) ⟨code, bits, n⟩

/-- The text begins with a category and a zero. -/
def Padded (cs : List Char) : Prop :=
  ∃ code : TypeCode, code ≠ .handle ∧ ∃ r, cs = code.name.toList ++ '0' :: r

/-! ### Numerals -/

variable {cs ds : List Char} {code : TypeCode} {bits n : UInt16} {d : DType}

theorem Numeral.no_plus {k : Nat} (h : Numeral ds k) : '+' ∉ ds := fun hplus =>
  absurd (h.digits '+' hplus) (by decide)

/-- The reader's numeral, once a sign is taken off. -/
theorem readDigits?_eq_some_iff :
    (if ds ≠ [] ∧ ds.all Char.isDigit then
      if Nat.ofDigitChars 10 ds 0 < UInt16.size then some (UInt16.ofNat (Nat.ofDigitChars 10 ds 0))
      else none
    else none) = some n ↔ Numeral ds n.toNat := by
  constructor
  · intro h
    split at h
    · next hds =>
      split at h
      · next hlt =>
        refine ⟨hds.1, List.all_eq_true.mp hds.2, ?_⟩
        rw [← Option.some.inj h, UInt16.toNat_ofNat_of_lt' hlt]
      · simp at h
    · simp at h
  · intro h
    have hlt : Nat.ofDigitChars 10 ds 0 < UInt16.size := h.value ▸ n.toNat_lt
    rw [if_pos ⟨h.ne_nil, List.all_eq_true.mpr h.digits⟩, if_pos hlt, h.value, UInt16.ofNat_toNat]

theorem readWord?_eq_some_iff : readWord? cs = some n ↔ CountSpelled cs n := by
  constructor
  · intro h
    unfold readWord? at h
    dsimp only at h
    split at h
    · exact .signed (readDigits?_eq_some_iff.mp h)
    · exact .plain (readDigits?_eq_some_iff.mp h)
  · intro h
    cases h with
    | signed h => exact readDigits?_eq_some_iff.mpr h
    | plain h =>
      unfold readWord?
      dsimp only
      split
      · exact absurd List.mem_cons_self h.no_plus
      · exact readDigits?_eq_some_iff.mpr h

/-! ### Lane types -/

/-- Where a width begins. -/
theorem Numeral.stops (h : Numeral ds n.toNat) : Stops (fun c => !c.isDigit) ds := by
  cases ds with
  | nil => trivial
  | cons c r =>
    show (!c.isDigit) = false
    rw [h.digits c List.mem_cons_self]
    rfl

theorem sizedCode?_eq_some_iff :
    sizedCode? cs = some code ↔ code ≠ .handle ∧ cs = code.name.toList := by
  constructor
  · intro h
    unfold sizedCode? at h
    have hmem : code ∈ [TypeCode.int, .uint, .float] := List.mem_of_find?_eq_some h
    have hname : code.name.toList = cs := by simpa using List.find?_some h
    refine ⟨?_, hname.symm⟩
    rintro rfl
    exact absurd hmem (by decide)
  · rintro ⟨hc, rfl⟩
    cases code with
    | handle => exact absurd rfl hc
    | int | uint | float => decide

/-- No category has a digit in it. -/
theorem name_no_digit (code : TypeCode) : ∀ c ∈ code.name.toList, (!c.isDigit) = true := by
  apply List.all_eq_true.mp
  cases code <;> rfl

theorem name_no_x (code : TypeCode) : ∀ c ∈ code.name.toList, (c != 'x') = true := by
  apply List.all_eq_true.mp
  cases code <;> rfl

theorem Numeral.exists_digit (h : Numeral ds n.toNat) : ∃ c ∈ ds, c.isDigit := by
  obtain ⟨c, r, rfl⟩ := List.exists_cons_of_ne_nil h.ne_nil
  exact ⟨c, List.mem_cons_self, h.digits c List.mem_cons_self⟩

/-- A lane type with a width is not one of the two words. -/
theorem sized_ne_word {w : List Char} (hd : Numeral ds bits.toNat)
    (hw : ∀ c ∈ w, (!c.isDigit) = true) (cs : List Char) : cs ++ ds ≠ w := by
  rintro rfl
  obtain ⟨c, hc, hdigit⟩ := hd.exists_digit
  have hno := hw c (List.mem_append_right _ hc)
  rw [hdigit] at hno
  exact absurd hno (by decide)

theorem readElement?_eq_some_iff :
    (readElement? cs = some (code, bits) ∧ bits ∈ code.widths) ↔ ElementSpelled cs code bits := by
  unfold readElement?
  constructor
  · rintro ⟨h, hw⟩
    split at h
    · next hcs =>
      cases h
      exact hcs ▸ .bool
    · split at h
      · next hcs =>
        cases h
        exact hcs ▸ .handle
      · obtain ⟨⟨name, digits⟩, hspan⟩ : ∃ x, cs.span (fun c => !c.isDigit) = x := ⟨_, rfl⟩
        rw [hspan] at h
        obtain ⟨code', hcode, h⟩ := Option.bind_eq_some_iff.mp h
        obtain ⟨bits', hbits, h⟩ := Option.map_eq_some_iff.mp h
        cases h
        obtain ⟨rfl, -, hstops⟩ := span_eq_iff.mp hspan
        obtain ⟨hc, rfl⟩ := sizedCode?_eq_some_iff.mp hcode
        cases readWord?_eq_some_iff.mp hbits with
        | plain hd => exact .sized hc hw hd
        | signed hd =>
          have hplus : (! '+'.isDigit) = false := hstops
          exact absurd hplus (by decide)
  · intro h
    cases h with
    | bool => decide
    | handle => decide
    | @sized _ _ ds hc hw hd =>
      have hspan : (code.name.toList ++ ds).span (fun c => !c.isDigit) = (code.name.toList, ds) :=
        span_eq_iff.mpr ⟨rfl, name_no_digit code, hd.stops⟩
      have hbool : code.name.toList ++ ds ≠ "bool".toList :=
        sized_ne_word hd (List.all_eq_true.mp rfl) _
      have hhandle : code.name.toList ++ ds ≠ "handle".toList :=
        sized_ne_word hd (name_no_digit .handle) _
      have hcode : sizedCode? code.name.toList = some code := sizedCode?_eq_some_iff.mpr ⟨hc, rfl⟩
      have hbits : readWord? ds = some bits := readWord?_eq_some_iff.mpr (.plain hd)
      refine ⟨?_, hw⟩
      rw [if_neg hbool, if_neg hhandle, hspan]
      simp only [hcode, hbits, Option.bind_some, Option.map_some]

theorem ElementSpelled.width (h : ElementSpelled cs code bits) : bits ∈ code.widths :=
  (readElement?_eq_some_iff.mpr h).2

/-- No lane type has an `x` in it. -/
theorem ElementSpelled.no_x (h : ElementSpelled cs code bits) : ∀ c ∈ cs, (c != 'x') = true := by
  cases h with
  | bool => exact List.all_eq_true.mp rfl
  | handle => exact name_no_x .handle
  | sized hc hw hd =>
    intro c hcs
    rcases List.mem_append.mp hcs with hname | hdigit
    · exact name_no_x code c hname
    · have hc : c.isDigit := hd.digits c hdigit
      rw [bne_iff_ne]
      rintro rfl
      exact absurd hc (by decide)

/-! ### Types -/

/-- The reader accepts the spellings of a type and nothing else. -/
theorem read?_eq_some_iff : read? cs = some d ↔ Spelled cs d := by
  constructor
  · intro h
    have hvalid : d.Valid := valid_of_read? h
    obtain ⟨⟨head, tail⟩, hspan⟩ : ∃ x, cs.span (· != 'x') = x := ⟨_, rfl⟩
    unfold read? at h
    rw [hspan] at h
    obtain ⟨n, hn, h⟩ := Option.bind_eq_some_iff.mp h
    obtain ⟨⟨code, bits⟩, helement, h⟩ := Option.bind_eq_some_iff.mp h
    obtain ⟨rfl, -, hstops⟩ := span_eq_iff.mp hspan
    dsimp only at h
    split at h
    · cases h
      have hel : ElementSpelled head code bits := readElement?_eq_some_iff.mp ⟨helement, hvalid.1⟩
      cases tail with
      | nil =>
        cases hn
        rw [List.append_nil]
        exact .scalar hel
      | cons c ds =>
        obtain rfl : c = 'x' := by simpa [Stops] using hstops
        exact .lanes hel (readWord?_eq_some_iff.mp hn) hvalid.lanes_ne_zero hvalid.2.2
    · simp at h
  · intro h
    cases h with
    | @scalar _ code bits hel =>
      have hspan : cs.span (· != 'x') = (cs, []) :=
        span_eq_iff.mpr ⟨(List.append_nil _).symm, hel.no_x, trivial⟩
      have hvalid : (⟨code, bits, 1⟩ : DType).Valid := 
        ⟨hel.width, (by decide : (1 : UInt16) ≠ 0), fun _ => rfl⟩
      unfold read?
      rw [hspan]
      simp only [readLanes?, (readElement?_eq_some_iff.mpr hel).1, Option.bind_some]
      exact if_pos hvalid
    | @lanes cs ds code bits n hel hn h0 hh =>
      have hspan : (cs ++ 'x' :: ds).span (· != 'x') = (cs, 'x' :: ds) :=
        span_eq_iff.mpr ⟨rfl, hel.no_x, rfl⟩
      have hvalid : (⟨code, bits, n⟩ : DType).Valid := ⟨hel.width, h0, hh⟩
      unfold read?
      rw [hspan]
      simp only [readLanes?, readWord?_eq_some_iff.mpr hn, (readElement?_eq_some_iff.mpr hel).1,
        Option.bind_some]
      exact if_pos hvalid

/-! ### What is read beyond the regular texts -/

theorem elementSpelled_of_mem {name : String} (h : (name, code, bits) ∈ elementNames) :
    ElementSpelled name.toList code bits := by
  have hall : ∀ p ∈ elementNames,
      readElement? p.1.toList = some (p.2.1, p.2.2) ∧ p.2.2 ∈ p.2.1.widths := by decide
  exact readElement?_eq_some_iff.mp (hall _ h)

theorem no_plus_of_mem {name : String} (h : (name, code, bits) ∈ elementNames) :
    '+' ∉ name.toList := by
  have hall : ∀ p ∈ elementNames, '+' ∉ p.1.toList := by decide
  exact hall _ h

/-- A name has a digit other than zero where its category ends. -/
theorem not_padded_of_mem {name : String} (h : (name, code, bits) ∈ elementNames)
    (r : List Char) : ¬ Padded (name.toList ++ r) := by
  rintro ⟨c, hc, t, heq⟩
  have hall : ∀ p ∈ elementNames, ∀ c ∈ [TypeCode.int, .uint, .float],
      p.1.toList.head? = c.name.toList.head? →
        ∃ hlt : c.name.toList.length < p.1.toList.length,
          p.1.toList[c.name.toList.length] ≠ '0' := by decide
  have hmem : c ∈ [TypeCode.int, .uint, .float] := by
    cases c with
    | handle => exact absurd rfl hc
    | int | uint | float => decide
  have hname : name.toList.head?.isSome := by
    have hsome : ∀ p ∈ elementNames, p.1.toList.head?.isSome := by decide
    exact hsome _ h
  have hcategory : c.name.toList.head?.isSome := by cases c <;> decide
  have hhead : name.toList.head? = c.name.toList.head? := by
    have hboth := congrArg List.head? heq
    rwa [List.head?_append, List.head?_append, Option.or_of_isSome hname,
      Option.or_of_isSome hcategory] at hboth
  obtain ⟨hlt, hdigit⟩ := hall _ h c hmem hhead
  refine hdigit (Option.some.inj ?_)
  calc some name.toList[c.name.toList.length]
      = (name.toList ++ r)[c.name.toList.length]? := by
        rw [List.getElem?_append_left hlt, List.getElem?_eq_getElem hlt]
    _ = some '0' := by simp [heq]

theorem mem_elementNames (hc : code ≠ .handle) (hw : bits ∈ code.widths) :
    (code.name ++ bits.toNat.repr, code, bits) ∈ elementNames := by
  have hall : code.widths.all (fun bits => (code.name ++ bits.toNat.repr, code, bits) ∈
      elementNames) = true := by
    cases code with
    | handle => exact absurd rfl hc
    | int | uint | float => decide
  exact of_decide_eq_true (List.all_eq_true.mp hall bits hw)

/-- A lane type without a zero in front of its width is in the table. -/
theorem ElementSpelled.exists_name (h : ElementSpelled cs code bits) {r : List Char}
    (hp : ¬ Padded (cs ++ r)) : ∃ name : String, cs = name.toList ∧
      (name, code, bits) ∈ elementNames := by
  cases h with
  | bool => exact ⟨"bool", rfl, by decide⟩
  | handle => exact ⟨"handle", rfl, by decide⟩
  | @sized _ _ ds hc hw hd =>
    have hz : ds.head? ≠ some '0' := by
      intro hz
      obtain ⟨t, rfl⟩ := List.head?_eq_some_iff.mp hz
      exact hp ⟨code, hc, t ++ r, by simp⟩
    have hds : ds = Nat.toDigits 10 bits.toNat := by
      rw [← hd.value]
      exact (toDigits_ofDigitChars hd.digits hd.ne_nil hz).symm
    exact ⟨code.name ++ bits.toNat.repr, by simp [hds], mem_elementNames hc hw⟩

/-- The regular texts are those that are read without a `+` and without a zero in
front of the width. -/
theorem regular_iff : Regular cs d ↔ Spelled cs d ∧ '+' ∉ cs ∧ ¬ Padded cs := by
  constructor
  · intro h
    cases h with
    | @scalar name code bits h =>
      refine ⟨.scalar (elementSpelled_of_mem h), no_plus_of_mem h, ?_⟩
      rw [← List.append_nil name.toList]
      exact not_padded_of_mem h []
    | @lanes name code bits n ds h hn h0 hh =>
      refine ⟨.lanes (elementSpelled_of_mem h) (.plain hn) h0 hh, ?_, not_padded_of_mem h _⟩
      simp [no_plus_of_mem h, hn.no_plus]
  · rintro ⟨h, hplus, hp⟩
    cases h with
    | @scalar _ code bits hel =>
      rw [← List.append_nil cs] at hp
      obtain ⟨name, rfl, hmem⟩ := hel.exists_name hp
      exact .scalar hmem
    | @lanes cs ds code bits n hel hn h0 hh =>
      obtain ⟨name, rfl, hmem⟩ := hel.exists_name hp
      cases hn with
      | plain hn => exact .lanes hmem hn h0 hh
      | signed hn => exact absurd (by simp) hplus

/-! ### Parsing -/

theorem parse_eq_ok_iff {text : String} : parse text = .ok d ↔ read? text.toList = some d := by
  unfold parse
  cases read? text.toList <;> simp

theorem parse_eq_error_iff {text : String} :
    parse text = .error (.unreadableType text) ↔ read? text.toList = none := by
  unfold parse
  cases read? text.toList <;> simp

/-- **What is read.** A text is read as a type just when it is spelled like one,
and refused as a whole otherwise. The regular texts are all read; any other text
that is read has a `+` in it or a width with a zero in front. -/
theorem parse_iff_spelled (text : String) :
    (∀ d, parse text = .ok d ↔ Spelled text.toList d) ∧
    (parse text = .error (.unreadableType text) ↔ ∀ d, ¬ Spelled text.toList d) ∧
    ∀ d, Regular text.toList d ↔
      Spelled text.toList d ∧ '+' ∉ text.toList ∧ ¬ Padded text.toList := by
  refine ⟨fun d => parse_eq_ok_iff.trans read?_eq_some_iff, ?_, fun d => regular_iff⟩
  rw [parse_eq_error_iff, Option.eq_none_iff_forall_ne_some]
  exact forall_congr' fun d => not_congr read?_eq_some_iff

/-- A sign and a padded width are read, in texts that are not regular. -/
theorem sign_and_padding_read :
    parse "int32x+4" = .ok ⟨.int, 32, 4⟩ ∧ parse "int032" = .ok ⟨.int, 32, 1⟩ ∧
    ∀ d, ¬ Regular "int32x+4".toList d ∧ ¬ Regular "int032".toList d := by
  refine ⟨by decide, by decide, fun d => ⟨fun h => ?_, fun h => ?_⟩⟩
  · exact (regular_iff.mp h).2.1 (by decide)
  · exact (regular_iff.mp h).2.2 ⟨.int, by decide, _, rfl⟩

/-- **Texts and types go round.** A type that can be made is read back from its
text, so different types have different texts, and the text of a type that was
read from any spelling is read as that type again. -/
theorem text_round_trip :
    (∀ code bits lanes d, make code bits lanes = .ok d → parse d.text = .ok d) ∧
    (∀ d e : DType, make d.code d.bits d.lanes = .ok d → make e.code e.bits e.lanes = .ok e →
      d.text = e.text → d = e) ∧
    (∀ text d, parse text = .ok d → parse d.text = .ok d) ∧
    (parse "uint1" = .ok (bool 1) ∧ parse "bool" = .ok (bool 1)) ∧
    (parse "boolx4" = .ok (bool 4) ∧ parse "uint1x4" = .ok (bool 4)) ∧
    (parse "int32x1" = .ok (int 32) ∧ parse "int32" = .ok (int 32)) ∧
    (parse "handlex1" = .ok handle ∧ parse "handle" = .ok handle) := by
  have hback {d : DType} (hd : d.Valid) : parse d.text = .ok d :=
    parse_eq_ok_iff.mpr (read?_text hd)
  refine ⟨fun code bits lanes d h => hback (make_eq_ok_iff.mp h).2, fun d e hd he h => ?_,
    fun text d h => hback (valid_of_read? (parse_eq_ok_iff.mp h)), by decide, by decide, by decide,
    by decide⟩
  exact text_inj (make_eq_ok_iff.mp hd).2 (make_eq_ok_iff.mp he).2 h

/-- A boolean vector is read back, from whichever of its two spellings it came. -/
theorem bools_round_trip :
    make .uint 1 4 = .ok (bool 4) ∧ (bool 4).text = "uint1x4" ∧ parse "uint1x4" = .ok (bool 4) ∧
    parse "boolx4" = .ok (bool 4) ∧ parse (bool 4).text = .ok (bool 4) := by
  obtain ⟨hmake, -, hparse, -⟩ := text_round_trip
  have hbools : make .uint 1 4 = .ok (bool 4) := by decide
  have hread : parse "boolx4" = .ok (bool 4) := by decide
  exact ⟨hbools, by decide, hmake .uint 1 4 (bool 4) hbools, hread, hparse "boolx4" (bool 4) hread⟩

end Lanewise.DType
