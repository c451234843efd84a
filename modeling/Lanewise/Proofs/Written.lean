/-
# The text of an expression can be read in one way

What a text shows of an expression is a tree of its own: numbers with or
without a type, strings, names, signs between operands and heads before
arguments. The text of such a tree tells the tree, whatever follows it, as long
as what follows does not go on with a word or open a parenthesis (`Ends`). The
first character tells the form; a parenthesis may open a typed number or an
operator, which differ at the end of the first word.

Key definitions: `Written`, `Written.text`, `Written.Wf`, `Written.Tells`.
Key theorems: `Written.Wf.tells`, `Written.text_inj`.
-/
import Lanewise.Proofs.Head
import Lanewise.Proofs.QuotedText

namespace Lanewise

open Text

/-! ### Signs -/

namespace BinaryOp

/-- What is written between the operands. -/
def sign (op : BinaryOp) : List Char :=
  match op.spelling with
  | .between s => s.toList
  | .applied _ => []

/-- The operator whose sign the text begins with. -/
def readSign? : List Char → Option BinaryOp
  | '*' :: _ => some .mul
  | '/' :: _ => some .div
  | ' ' :: '+' :: _ => some .add
  | ' ' :: '-' :: _ => some .sub
  | ' ' :: '%' :: _ => some .mod
  | ' ' :: '&' :: _ => some .and
  | ' ' :: '|' :: _ => some .or
  | ' ' :: '=' :: _ => some .eq
  | ' ' :: '!' :: _ => some .ne
  | ' ' :: '<' :: ' ' :: _ => some .lt
  | ' ' :: '<' :: '=' :: _ => some .le
  | ' ' :: '>' :: ' ' :: _ => some .gt
  | ' ' :: '>' :: '=' :: _ => some .ge
  | _ => none

variable {f g : BinaryOp} {r t : List Char}

theorem readSign?_sign (hf : f.isInfix) (r : List Char) : readSign? (f.sign ++ r) = some f := by
  cases f <;> first | rfl | cases hf

theorem sign_append_inj (hf : f.isInfix) (hg : g.isInfix) (h : f.sign ++ r = g.sign ++ t) :
    f = g ∧ r = t := by
  have hread := readSign?_sign hf r
  rw [h, readSign?_sign hg] at hread
  obtain rfl : g = f := Option.some.inj hread
  exact ⟨rfl, List.append_cancel_left h⟩

end BinaryOp

/-! ### What a text shows -/

/-- The tree that a text shows. A name is a variable, and what is applied has arguments. -/
inductive Written where
  | number (v : Int64)
  /-- A number with its type before it. -/
  | typed (d : DType) (v : Int64)
  | string (s : String)
  | name (s : String)
  | not (a : Written)
  | between (op : BinaryOp) (a b : Written)
  | applied (f : Head) (args : List Written)

namespace Written

mutual

/-- The characters of the tree. -/
def text : Written → List Char
  | number v => v.toInt.repr.toList
  | typed d v => '(' :: (d.text.toList ++ ')' :: v.toInt.repr.toList)
  | string s => (quoted s).toList
  | name s => s.toList
  | not a => '!' :: a.text
  | between op a b => '(' :: (a.text ++ (op.sign ++ (b.text ++ [')'])))
  | applied f args => f.text ++ '(' :: argsText args

/-- The arguments and the parenthesis after them. -/
def argsText : List Written → List Char
  | [] => [')']
  | a :: as => a.text ++ moreText as

/-- The arguments after the first one. -/
def moreText : List Written → List Char
  | [] => [')']
  | a :: as => ',' :: ' ' :: (a.text ++ moreText as)

end

/-- The names in the tree are names, and its types are types. -/
inductive Wf : Written → Prop
  | number (v : Int64) : Wf (number v)
  | typed {d : DType} (hd : d.Valid) (v : Int64) : Wf (typed d v)
  | string (s : String) : Wf (string s)
  | name {s : String} (hs : isIdentifier s.toList) : Wf (name s)
  | not {a : Written} (ha : Wf a) : Wf (not a)
  | between {op : BinaryOp} {a b : Written} (hop : op.isInfix) (ha : Wf a) (hb : Wf b) :
      Wf (between op a b)
  | applied {f : Head} {args : List Written} (hf : f.Wf) (h : ∀ a ∈ args, Wf a) :
      Wf (applied f args)

/-! ### Where a text ends -/

/-- A character that could go on with what is before it. -/
def isGlue (c : Char) : Bool := isWord c || c = '('

/-- The text can follow what an expression is written as. -/
def Ends (r : List Char) : Prop := Stops isGlue r

variable {a b : Written} {as bs : List Written} {f g : Head} {r t : List Char}

theorem Ends.word (h : Ends r) : Stops isWord r := h.mono fun c hc => by simp [isGlue, hc]

theorem Ends.digit (h : Ends r) : Stops Char.isDigit r :=
  h.mono fun c hc => by simp [isGlue, isWord_of_isDigit hc]

theorem not_ends_paren : ¬ Ends ('(' :: r) := fun h => by
  have hc : isGlue '(' = false := h
  exact absurd hc (by decide)

theorem ends_close : Ends (')' :: r) := (by decide : isGlue ')' = false)

theorem ends_sign {op : BinaryOp} (hop : op.isInfix) : Ends (op.sign ++ r) := by
  cases op <;> first | (show isGlue _ = false; decide) | cases hop

theorem ends_moreText (as : List Written) : Ends (moreText as ++ r) := by
  cases as with
  | nil => exact (by decide : isGlue ')' = false)
  | cons a as => exact (by decide : isGlue ',' = false)

/-! ### What a text begins with -/

/-- The sort of character that a text begins with. -/
inductive Opening where
  | digit
  | letter
  | quote
  | bang
  | paren
  | other
deriving DecidableEq

/-- The sort of the character. -/
def openingOf (c : Char) : Opening :=
  if isInitial c then .letter
  else if c.isDigit || c = '-' then .digit
  else if c = '"' then .quote
  else if c = '!' then .bang
  else if c = '(' then .paren
  else .other

/-- The sort of character that the text of the tree begins with. -/
def opening : Written → Opening
  | number _ => .digit
  | typed .. | between .. => .paren
  | string _ => .quote
  | name _ | applied .. => .letter
  | not _ => .bang

theorem openingOf_initial {c : Char} (h : isInitial c) : openingOf c = .letter := if_pos h

theorem openingOf_digit {c : Char} (h : c = '-' ∨ c.isDigit) : openingOf c = .digit := by
  rcases h with rfl | h
  · decide
  · simp [openingOf, not_isInitial_of_isDigit h, h]

theorem exists_cons_text (h : a.Wf) : ∃ c cs, a.text = c :: cs ∧ openingOf c = a.opening := by
  cases h with
  | number v =>
    obtain ⟨c, cs, hcs, hc⟩ := exists_cons_repr v.toInt
    exact ⟨c, cs, by rw [text, hcs], openingOf_digit hc⟩
  | typed | between => exact ⟨'(', _, by rw [text], rfl⟩
  | string s => exact ⟨'"', s.toList.flatMap escape ++ ['"'], by simp [text, quoted], rfl⟩
  | name hs =>
    obtain ⟨c, cs, hcs, hc⟩ := exists_cons_of_isIdentifier hs
    exact ⟨c, cs, by rw [text, hcs], openingOf_initial hc⟩
  | not => exact ⟨'!', _, by rw [text], rfl⟩
  | applied hf =>
    obtain ⟨c, cs, hcs, hc⟩ := exists_cons_of_isIdentifier (Head.isIdentifier_text hf)
    exact ⟨c, _, by rw [text, hcs, List.cons_append], openingOf_initial hc⟩

theorem opening_eq (ha : a.Wf) (hb : b.Wf) (h : a.text ++ r = b.text ++ t) :
    a.opening = b.opening := by
  obtain ⟨c, cs, hcs, hc⟩ := exists_cons_text ha
  obtain ⟨d, ds, hds, hd⟩ := exists_cons_text hb
  rw [hcs, hds] at h
  obtain ⟨rfl, -⟩ := List.cons.inj h
  exact hc.symm.trans hd

theorem close_append_ne_text (hb : b.Wf) : ')' :: r ≠ b.text ++ t := by
  intro h
  obtain ⟨c, cs, hcs, hc⟩ := exists_cons_text hb
  rw [hcs] at h
  obtain ⟨rfl, -⟩ := List.cons.inj h
  have hother : b.opening = .other := hc.symm
  cases b <;> simp [opening] at hother

/-! ### What a text tells -/

/-- The text of `a` tells `a`, whatever follows it. -/
def Tells (a : Written) : Prop :=
  ∀ ⦃b : Written⦄ ⦃r t : List Char⦄, b.Wf → Ends r → Ends t → a.text ++ r = b.text ++ t →
    a = b ∧ r = t

theorem number_tells (v : Int64) : (number v).Tells := by
  intro b r t hb hr ht h
  have ho := opening_eq (.number v) hb h
  cases hb with
  | number w =>
    rw [text, text] at h
    obtain ⟨hv, hrest⟩ := repr_append_inj hr.digit ht.digit h
    exact ⟨by rw [Int64.toInt_inj.mp hv], hrest⟩
  | _ => simp [opening] at ho

theorem string_tells (s : String) : (string s).Tells := by
  intro b r t hb hr ht h
  have ho := opening_eq (.string s) hb h
  cases hb with
  | string s' =>
    rw [text, text] at h
    obtain ⟨rfl, hrest⟩ := quoted_append_inj h
    exact ⟨rfl, hrest⟩
  | _ => simp [opening] at ho

theorem name_tells {s : String} (hs : isIdentifier s.toList) : (name s).Tells := by
  intro b r t hb hr ht h
  have ho := opening_eq (.name hs) hb h
  cases hb with
  | name hs' =>
    rw [text, text] at h
    obtain ⟨heq, hrest⟩ := append_inj_of_stops (isWord_of_isIdentifier hs)
      (isWord_of_isIdentifier hs') hr.word ht.word h
    exact ⟨by rw [String.toList_inj.mp heq], hrest⟩
  | applied hf hargs =>
    -- a name with a parenthesis after it would be a head
    rw [text, text, List.append_assoc] at h
    have hparen : ∀ u, Stops isWord ('(' :: u) := fun _ => (by decide : isWord '(' = false)
    obtain ⟨-, hrest⟩ := append_inj_of_stops (isWord_of_isIdentifier hs)
      (isWord_of_isIdentifier (Head.isIdentifier_text hf)) hr.word (hparen _) h
    exact absurd (hrest ▸ hr) not_ends_paren
  | _ => simp [opening] at ho

theorem not_tells (ha : a.Wf) (h : a.Tells) : (not a).Tells := by
  intro b r t hb hr ht heq
  have ho := opening_eq (.not ha) hb heq
  cases hb with
  | not hb =>
    rw [text, text] at heq
    obtain ⟨rfl, hrest⟩ := h hb hr ht (List.cons.inj heq).2
    exact ⟨rfl, hrest⟩
  | _ => simp [opening] at ho

/-! ### After a parenthesis -/

/-- The type of a number is not taken for the left operand of an operator. -/
theorem type_append_ne {d : DType} {op : BinaryOp} (hd : d.Valid) (ha : a.Wf) (hop : op.isInfix) :
    d.text.toList ++ ')' :: r ≠ a.text ++ (op.sign ++ t) := by
  intro h
  -- the type is read as a name; after it comes a parenthesis and not a sign
  have hname : (name d.text).Tells := name_tells (DType.isIdentifier_text hd)
  obtain ⟨-, hrest⟩ := hname ha ends_close (ends_sign hop) (by rw [text]; exact h)
  cases op <;> first | exact absurd (List.cons.inj hrest).1 (by decide) | cases hop

theorem typed_tells {d : DType} (hd : d.Valid) (v : Int64) : (typed d v).Tells := by
  intro b r t hb hr ht h
  have ho := opening_eq (.typed hd v) hb h
  cases hb with
  | @typed e he w =>
    simp only [text, List.cons_append, List.append_assoc, List.cons.injEq, true_and] at h
    have hclose : ∀ u, Stops isWord (')' :: u) := fun _ => (by decide : isWord ')' = false)
    obtain ⟨hde, hrest⟩ := append_inj_of_stops
      (isWord_of_isIdentifier (DType.isIdentifier_text hd))
      (isWord_of_isIdentifier (DType.isIdentifier_text he)) (hclose _) (hclose _) h
    obtain ⟨hv, hrest⟩ := repr_append_inj hr.digit ht.digit (List.cons.inj hrest).2
    obtain rfl : d = e := DType.text_inj hd he (String.toList_inj.mp hde)
    exact ⟨by rw [Int64.toInt_inj.mp hv], hrest⟩
  | between hop hx hy =>
    simp only [text, List.cons_append, List.append_assoc, List.cons.injEq, true_and] at h
    exact absurd h (type_append_ne hd hx hop)
  | _ => simp [opening] at ho

theorem between_tells {op : BinaryOp} {x y : Written} (hop : op.isInfix) (hx : x.Wf) (hy : y.Wf)
    (hxt : x.Tells) (hyt : y.Tells) : (between op x y).Tells := by
  intro b r t hb hr ht h
  have ho := opening_eq (.between hop hx hy) hb h
  cases hb with
  | typed hd v =>
    simp only [text, List.cons_append, List.append_assoc, List.cons.injEq, true_and] at h
    exact absurd h.symm (type_append_ne hd hx hop)
  | between hop' hx' hy' =>
    simp only [text, List.cons_append, List.append_assoc, List.cons.injEq, true_and] at h
    obtain ⟨rfl, hsign⟩ := hxt hx' (ends_sign hop) (ends_sign hop') h
    obtain ⟨rfl, hright⟩ := BinaryOp.sign_append_inj hop hop' hsign
    obtain ⟨rfl, hclose⟩ := hyt hy' ends_close ends_close hright
    exact ⟨rfl, (List.cons.inj hclose).2⟩
  | _ => simp [opening] at ho

/-! ### Arguments -/

theorem moreText_append_inj (ha : ∀ a ∈ as, a.Tells) (hb : ∀ b ∈ bs, b.Wf)
    (h : moreText as ++ r = moreText bs ++ t) : as = bs ∧ r = t := by
  induction as generalizing bs with
  | nil =>
    cases bs with
    | nil => exact ⟨rfl, (List.cons.inj h).2⟩
    | cons b bs => exact absurd (List.cons.inj h).1 (by decide)
  | cons a as ih =>
    cases bs with
    | nil => exact absurd (List.cons.inj h).1 (by decide)
    | cons b bs =>
      obtain ⟨ha1, ha2⟩ := List.forall_mem_cons.mp ha
      obtain ⟨hb1, hb2⟩ := List.forall_mem_cons.mp hb
      simp only [moreText, List.cons_append, List.append_assoc, List.cons.injEq, true_and] at h
      obtain ⟨rfl, hmore⟩ := ha1 hb1 (ends_moreText as) (ends_moreText bs) h
      obtain ⟨rfl, hrest⟩ := ih ha2 hb2 hmore
      exact ⟨rfl, hrest⟩

theorem argsText_append_inj (hwf : ∀ a ∈ as, a.Wf) (ha : ∀ a ∈ as, a.Tells) (hb : ∀ b ∈ bs, b.Wf)
    (h : argsText as ++ r = argsText bs ++ t) : as = bs ∧ r = t := by
  cases as with
  | nil =>
    cases bs with
    | nil => exact ⟨rfl, (List.cons.inj h).2⟩
    | cons b bs =>
      simp only [argsText, List.cons_append, List.nil_append, List.append_assoc] at h
      exact absurd h (close_append_ne_text (hb b List.mem_cons_self))
  | cons a as =>
    cases bs with
    | nil =>
      simp only [argsText, List.cons_append, List.nil_append, List.append_assoc] at h
      exact absurd h.symm (close_append_ne_text (hwf a List.mem_cons_self))
    | cons b bs =>
      obtain ⟨ha1, ha2⟩ := List.forall_mem_cons.mp ha
      obtain ⟨hb1, hb2⟩ := List.forall_mem_cons.mp hb
      simp only [argsText, List.append_assoc] at h
      obtain ⟨rfl, hmore⟩ := ha1 hb1 (ends_moreText as) (ends_moreText bs) h
      obtain ⟨rfl, hrest⟩ := moreText_append_inj ha2 hb2 hmore
      exact ⟨rfl, hrest⟩

theorem applied_tells (hf : f.Wf) (hwf : ∀ a ∈ as, a.Wf) (ha : ∀ a ∈ as, a.Tells) :
    (applied f as).Tells := by
  intro b r t hb hr ht h
  have ho := opening_eq (.applied hf hwf) hb h
  have hparen : ∀ u, Stops isWord ('(' :: u) := fun _ => (by decide : isWord '(' = false)
  have hword : ∀ c ∈ f.text, isWord c := isWord_of_isIdentifier (Head.isIdentifier_text hf)
  cases hb with
  | name hs =>
    simp only [text, List.append_assoc, List.cons_append] at h
    obtain ⟨-, hrest⟩ :=
      append_inj_of_stops hword (isWord_of_isIdentifier hs) (hparen _) ht.word h
    exact absurd (hrest ▸ ht) not_ends_paren
  | applied hg hwf' =>
    simp only [text, List.append_assoc, List.cons_append] at h
    obtain ⟨hfg, hargs⟩ := append_inj_of_stops hword
      (isWord_of_isIdentifier (Head.isIdentifier_text hg)) (hparen _) (hparen _) h
    obtain rfl := Head.text_inj hf hg hfg
    obtain ⟨rfl, hrest⟩ := argsText_append_inj hwf ha hwf' (List.cons.inj hargs).2
    exact ⟨rfl, hrest⟩
  | _ => simp [opening] at ho

/-- **A text can be read in one way.** -/
theorem Wf.tells (h : a.Wf) : a.Tells := by
  induction h with
  | number v => exact number_tells v
  | typed hd v => exact typed_tells hd v
  | string s => exact string_tells s
  | name hs => exact name_tells hs
  | not ha ih => exact not_tells ha ih
  | between hop ha hb iha ihb => exact between_tells hop ha hb iha ihb
  | applied hf h ih => exact applied_tells hf h ih

/-- No two written forms share a text. -/
theorem text_inj (ha : a.Wf) (hb : b.Wf) (h : a.text = b.text) : a = b := by
  have hnil : Ends [] := trivial
  exact (ha.tells hb hnil hnil (by rw [h])).1

end Written

end Lanewise
