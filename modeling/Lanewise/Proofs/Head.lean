/-
# What stands before parentheses

Operators, casts, broadcasts and calls are all written as a name before their
arguments in parentheses. The name tells which of them it is: the operators
have names of their own, a cast has the text of its type, a broadcast an `x`
and its lanes, and a call is none of these if its name is free. `Head.read`
looks for them in this order.

Key definitions: `Head`, `Head.text`, `Head.IsFree`, `Head.read`.
Key theorems: `Head.read_text`, `Head.text_inj`, `Head.isIdentifier_text`.
-/
import Lanewise.Expr.Render
import Lanewise.Proofs.TypeText

namespace Lanewise

/-- What is applied to arguments. -/
inductive Head where
  | binary (op : BinaryOp)
  | bitwise (op : BitwiseOp)
  | complement
  | cast (d : DType)
  | broadcast (lanes : UInt16)
  | call (name : String)
deriving DecidableEq

/-- The operator is written between its operands. -/
def BinaryOp.isInfix (op : BinaryOp) : Bool :=
  match op.spelling with
  | .between _ => true
  | .applied _ => false

namespace Head

open Text

/-- What is written before the parenthesis. -/
def text : Head → List Char
  | binary op => op.name.toList
  | bitwise op => op.name.toList
  | complement => "bitwise_not".toList
  | cast d => d.text.toList
  | broadcast lanes => 'x' :: Nat.toDigits 10 lanes.toNat
  | call name => name.toList

theorem text_broadcast (lanes : UInt16) :
    (broadcast lanes).text = 'x' :: Nat.toDigits 10 lanes.toNat := rfl

/-- The operators that are written before their operands. -/
def operators : List Head :=
  [.binary .floorDiv, .binary .floorMod, .binary .max, .binary .min, .bitwise .shiftLeft,
    .bitwise .shiftRight, .bitwise .and, .bitwise .or, .bitwise .xor, .complement]

/-- No operator, cast or broadcast is written like this. -/
def IsFree (name : String) : Prop :=
  (∀ f ∈ operators, name.toList ≠ f.text) ∧ (∀ d : DType, d.Valid → name ≠ d.text) ∧
  ∀ ds : List Char, ds ≠ [] → ds.all Char.isDigit → name.toList ≠ 'x' :: ds

/-- The head can stand in a text. -/
def Wf : Head → Prop
  | binary op => op.isInfix = false
  | bitwise _ | complement | broadcast _ => True
  | cast d => d.Valid
  | call name => isIdentifier name.toList ∧ IsFree name

/-! ### Reading -/

/-- The lanes of a broadcast that is written like this. -/
def readLanes? : List Char → Option UInt16
  | 'x' :: ds => if ds.all Char.isDigit then DType.readWord? ds else none
  | _ => none

/-- The type whose text this is. -/
def readType? (cs : List Char) : Option DType := (DType.read? cs).filter (·.text.toList = cs)

/-- The head that is written like this, unless it is an operator. -/
def readName (cs : List Char) : Head :=
  match readType? cs with
  | some d => .cast d
  | none => match readLanes? cs with
    | some lanes => .broadcast lanes
    | none => .call (String.ofList cs)

/-- What is applied, read from what stands before the parenthesis. -/
def read (cs : List Char) : Head :=
  match operators.find? (·.text = cs) with
  | some f => f
  | none => readName cs

theorem read_operator : ∀ f ∈ operators, read f.text = f := by decide

theorem readType?_operator : ∀ f ∈ operators, readType? f.text = none := by decide

theorem head?_operator : ∀ f ∈ operators, f.text.head? ≠ some 'x' := by decide

theorem read_eq_readName {cs : List Char} (h : ∀ f ∈ operators, cs ≠ f.text) :
    read cs = readName cs := by
  have hfind : operators.find? (·.text = cs) = none := by
    rw [List.find?_eq_none]
    intro f hf
    have hne : f.text ≠ cs := fun heq => h f hf heq.symm
    simpa using hne
  unfold read
  rw [hfind]

theorem readType?_eq_some {cs : List Char} {d : DType} (h : readType? cs = some d) :
    d.Valid ∧ d.text.toList = cs := by
  obtain ⟨hread, htext⟩ := Option.filter_eq_some_iff.mp h
  exact ⟨DType.valid_of_read? hread, by simpa using htext⟩

theorem readType?_text {d : DType} (hd : d.Valid) : readType? d.text.toList = some d := by
  rw [readType?, DType.read?_text hd]
  simp

theorem readType?_x (cs : List Char) : readType? ('x' :: cs) = none := by
  rw [readType?, DType.read?_x]
  rfl

theorem readLanes?_eq_some {cs : List Char} {n : UInt16} (h : readLanes? cs = some n) :
    ∃ ds, cs = 'x' :: ds ∧ ds ≠ [] ∧ ds.all Char.isDigit := by
  unfold readLanes? at h
  split at h
  · next ds =>
    split at h
    · next hds =>
      refine ⟨ds, rfl, ?_, hds⟩
      rintro rfl
      cases h
    · simp at h
  · simp at h

theorem readLanes?_text (lanes : UInt16) : readLanes? (broadcast lanes).text = some lanes := by
  have hall : (Nat.toDigits 10 lanes.toNat).all Char.isDigit :=
    List.all_eq_true.mpr fun _ => isDigit_of_mem_toDigits
  rw [text_broadcast]
  exact (if_pos hall).trans (DType.readWord?_toDigits lanes)

theorem readName_lanes {cs : List Char} {n : UInt16} (ht : readType? cs = none)
    (hl : readLanes? cs = some n) : readName cs = broadcast n := by
  unfold readName
  rw [ht, hl]

/-- **A head is read back from its text.** -/
theorem read_text {f : Head} (hf : f.Wf) : read f.text = f := by
  cases f with
  | binary op =>
    have hop : op.isInfix = false := hf
    refine read_operator _ ?_
    revert hop
    cases op <;> decide
  | bitwise op =>
    refine read_operator _ ?_
    cases op <;> decide
  | complement => exact read_operator _ (by decide)
  | cast d =>
    have hne : ∀ f ∈ operators, d.text.toList ≠ f.text := fun f hf' h => by
      have hnone := readType?_operator f hf'
      rw [← h, readType?_text hf] at hnone
      simp at hnone
    show read d.text.toList = cast d
    rw [read_eq_readName hne, readName, readType?_text hf]
  | broadcast lanes =>
    have hne : ∀ f ∈ operators, (broadcast lanes).text ≠ f.text := fun f hf' h =>
      head?_operator f hf' (congrArg List.head? h).symm
    rw [read_eq_readName hne]
    exact readName_lanes (readType?_x _) (readLanes?_text lanes)
  | call name =>
    obtain ⟨-, hoperator, htype, hlanes⟩ := hf
    have hnotype : readType? name.toList = none := by
      rw [Option.eq_none_iff_forall_ne_some]
      intro d hd
      obtain ⟨hvalid, htext⟩ := readType?_eq_some hd
      exact htype d hvalid (String.toList_inj.mp htext.symm)
    have hnolanes : readLanes? name.toList = none := by
      rw [Option.eq_none_iff_forall_ne_some]
      intro n hn
      obtain ⟨ds, hcs, hne, hall⟩ := readLanes?_eq_some hn
      exact hlanes ds hne hall hcs
    show read name.toList = call name
    rw [read_eq_readName hoperator, readName, hnotype, hnolanes, String.ofList_toList]

/-- No two operations are written alike. -/
theorem text_inj {f g : Head} (hf : f.Wf) (hg : g.Wf) (h : f.text = g.text) : f = g := by
  rw [← read_text hf, ← read_text hg, h]

/-! ### Names -/

/-- What is applied is a name. -/
theorem isIdentifier_text {f : Head} (hf : f.Wf) : isIdentifier f.text := by
  cases f with
  | binary op => cases op <;> decide
  | bitwise op => cases op <;> decide
  | complement => decide
  | cast d => exact DType.isIdentifier_text hf
  | broadcast lanes =>
    have hx : isIdentifier ['x'] := by decide
    exact isIdentifier_append hx fun c hc => isWord_of_isDigit (isDigit_of_mem_toDigits hc)
  | call name => exact hf.1

end Head

end Lanewise
