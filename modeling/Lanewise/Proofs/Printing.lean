/-
# The canonical text is faithful

Two expressions have the same text just when they are equal, if the text shows
what it can: there are no floats, names are names and not those of other heads,
and a name stands for one variable and for calls of one type. The text gives
back the tree of what is written (`Written`), and from it the types that are
not written follow from the operands, because the nodes are typed.

Key definitions: `Expr.written`, `Expr.Printable`, `Expr.Legible`.
Key theorems: `Expr.text_written`, `Expr.equal_of_written_eq`, `Expr.written_eq_of_equal`,
`render_eq_iff_equal`.
-/
import Lanewise.Proofs.Equality
import Lanewise.Proofs.Reachable
import Lanewise.Proofs.Written

namespace Lanewise

/-! ### What is written -/

namespace Written

/-- A number with its type, which is left out where it is the default one. -/
def ofInt (d : DType) (v : Int64) : Written := if d = .int 32 then .number v else .typed d v

/-- The operator between its operands or before them. -/
def operate (op : BinaryOp) (a b : Written) : Written :=
  if op.isInfix then .between op a b else .applied (.binary op) [a, b]

variable {op op' : BinaryOp} {a b x y : Written} {d d' : DType} {v v' : Int64}

theorem ofInt_inj (h : ofInt d v = ofInt d' v') : d = d' ∧ v = v' := by
  unfold ofInt at h
  split at h <;> split at h <;> simp_all

theorem wf_ofInt (hd : d.Valid) (v : Int64) : (ofInt d v).Wf := by
  unfold ofInt
  split
  · exact .number v
  · exact .typed hd v

theorem operate_inj (h : operate op a b = operate op' x y) : op = op' ∧ a = x ∧ b = y := by
  unfold operate at h
  split at h <;> split at h <;> simp_all

/-- The form of the node that is written like this. -/
def form : Written → String
  | number _ | typed .. => "IntImm"
  | string _ => "StringImm"
  | name _ => "Var"
  | not _ | applied .complement _ => "UnaryOp"
  | between .. | applied (.binary _) _ => "BinaryOp"
  | applied (.bitwise _) _ => "BitwiseOp"
  | applied (.cast _) _ => "Cast"
  | applied (.broadcast _) _ => "Broadcast"
  | applied (.call _) _ => "Call"

/-- Arguments are separated by commas. -/
theorem argsText_eq {xs : List Written} {ss : List String}
    (h : xs.map text = ss.map String.toList) :
    argsText xs = (", ".intercalate ss).toList ++ [')'] := by
  induction xs generalizing ss with
  | nil =>
    cases ss with
    | nil => rfl
    | cons s ss => simp at h
  | cons x xs ih =>
    cases ss with
    | nil => simp at h
    | cons s ss =>
      obtain ⟨hx, hxs⟩ := List.cons.inj h
      cases xs with
      | nil =>
        cases ss with
        | nil => rw [argsText, moreText, hx, String.intercalate_singleton]
        | cons s ss => simp at hxs
      | cons y ys =>
        cases ss with
        | nil => simp at hxs
        | cons s' ss =>
          have hmore : moreText (y :: ys) = ", ".toList ++ argsText (y :: ys) := rfl
          rw [argsText, hmore, ih hxs, hx, String.intercalate_cons_cons]
          simp

theorem text_applied {f : Head} {name : String} {xs : List Written} {ss : List String}
    (hf : f.text = name.toList) (h : xs.map text = ss.map String.toList) :
    (applied f xs).text = (application name ss).toList := by
  rw [text, argsText_eq h, hf]
  simp [application]

theorem text_operate {s t : String} (ha : a.text = s.toList) (hb : b.text = t.toList) :
    (operate op a b).text = (op.spelling.write s t).toList := by
  unfold operate BinaryOp.isInfix
  cases hop : op.spelling with
  | between sign => simp [text, Spelling.write, BinaryOp.sign, hop, ha, hb]
  | applied name =>
    have hname : op.name = name := by
      cases op <;> first | exact Spelling.applied.inj hop | cases hop
    have hhead : (Head.binary op).text = name.toList := congrArg String.toList hname
    exact text_applied hhead (by simp [ha, hb])

end Written

namespace Expr

mutual

/-- What the text of the expression shows; floats are taken as they are printed. -/
def written : Expr → Written
  | intImm i v => .ofInt i.dtype v
  | floatImm i x => .name (renderFloat i.dtype x)
  | stringImm _ s => .string s
  | var _ name => .name name
  | unary _ .not a => .not a.written
  | unary _ .bitwiseNot a => .applied .complement [a.written]
  | binary _ op a b => .operate op a.written b.written
  | bitwise _ op a b => .applied (.bitwise op) [a.written, b.written]
  | cast i a => .applied (.cast i.dtype) [a.written]
  | broadcast i a => .applied (.broadcast i.dtype.lanes) [a.written]
  | call _ name args => .applied (.call name) (writtenAll args)

/-- What the texts of the expressions show, one by one. -/
def writtenAll : List Expr → List Written
  | [] => []
  | a :: as => a.written :: writtenAll as

end

theorem writtenAll_eq_map (es : List Expr) : writtenAll es = es.map written := by
  induction es with
  | nil => rfl
  | cons e es ih => simp [writtenAll, ih]

/-- The canonical text is the text of what is written. -/
theorem text_written (e : Expr) : e.written.text = e.render.toList := by
  induction e with
  | intImm i v =>
    unfold written render renderInt Written.ofInt
    split <;> simp [Written.text]
  | floatImm | stringImm | var =>
    rw [written, render, Written.text]
  | unary i op a ih =>
    cases op with
    | not => simp [written, render, Written.text, ih]
    | bitwiseNot =>
      rw [written, render]
      exact Written.text_applied rfl (by simp [ih])
  | binary i op a b iha ihb =>
    rw [written, render]
    exact Written.text_operate iha ihb
  | bitwise i op a b iha ihb =>
    rw [written, render]
    exact Written.text_applied rfl (by simp [iha, ihb])
  | cast i a ih =>
    rw [written, render]
    exact Written.text_applied rfl (by simp [ih])
  | broadcast i a ih =>
    rw [written, render]
    refine Written.text_applied ?_ (by simp [ih])
    rw [Head.text_broadcast]
    simp
  | call i name args ih =>
    rw [written, render, writtenAll_eq_map, renderAll_eq_map]
    refine Written.text_applied rfl ?_
    rw [List.map_map, List.map_map]
    exact List.map_congr_left ih

/-! ### What can be read -/

/-- The node's text is not that of another one: it is no float, and a name is a
name, of a call one that is free. -/
def NodePrintable : Expr → Prop
  | floatImm .. => False
  | var _ name => Text.isIdentifier name.toList
  | call _ name _ => Text.isIdentifier name.toList ∧ Head.IsFree name
  | _ => True

/-- Every node of the expression is printable. -/
def Printable (e : Expr) : Prop := ∀ n, Occurs n e → n.NodePrintable

theorem Printable.operand {e x : Expr} (h : e.Printable) (hx : x ∈ e.operands) : x.Printable :=
  fun n hn => h n (.operand hx hn)

/-- What is written of a typed and printable expression can be read. -/
theorem wf_written {e : Expr} (ht : e.WellTyped) (hp : e.Printable) : e.written.Wf := by
  induction e using operand_induction with
  | step e ih =>
    have hops : ∀ x ∈ e.operands, x.written.Wf := fun x hx =>
      ih x hx (ht.operand hx) (hp.operand hx)
    have hnode : e.NodePrintable := hp e .root
    cases e with
    | intImm i v => exact Written.wf_ofInt ht.valid v
    | floatImm => exact hnode.elim
    | stringImm _ s => exact .string s
    | var => exact .name hnode
    | unary i op a =>
      have ha : a.written.Wf := hops a List.mem_cons_self
      cases op with
      | not => exact .not ha
      | bitwiseNot => exact .applied trivial (List.forall_mem_singleton.mpr ha)
    | binary i op a b =>
      obtain ⟨ha, hb⟩ : a.written.Wf ∧ b.written.Wf := by simpa [operands] using hops
      rw [written, Written.operate]
      split
      · next hop => exact .between hop ha hb
      · next hop => exact .applied (Bool.eq_false_iff.mpr hop) (by simp [ha, hb])
    | bitwise i op a b =>
      obtain ⟨ha, hb⟩ : a.written.Wf ∧ b.written.Wf := by simpa [operands] using hops
      exact .applied trivial (by simp [ha, hb])
    | cast i a =>
      have ha : a.written.Wf := hops a List.mem_cons_self
      exact .applied ht.valid (List.forall_mem_singleton.mpr ha)
    | broadcast i a =>
      have ha : a.written.Wf := hops a List.mem_cons_self
      exact .applied trivial (List.forall_mem_singleton.mpr ha)
    | call i name args =>
      rw [written, writtenAll_eq_map]
      exact .applied hnode (List.forall_mem_map.mpr hops)

/-- Typed nodes, closed under operands, in which a number names one node, a name
one variable, and the name of a call one type. -/
structure Legible (P : Set Expr) : Prop where
  operands : ∀ e ∈ P, ∀ x ∈ e.operands, x ∈ P
  coherent : ∀ a ∈ P, ∀ b ∈ P, a.sameNode b → a = b
  typed : ∀ e ∈ P, e.NodeTyped
  noFloat : ∀ e ∈ P, e.isFloatLiteral = false
  vars : ∀ i j name, var i name ∈ P → var j name ∈ P → (var i name).sameNode (var j name)
  calls : ∀ i j name xs ys, call i name xs ∈ P → call j name ys ∈ P → i.dtype = j.dtype

/-! ### From the text to the expression -/

variable {P : Set Expr} {a b : Expr}

theorem form_written {e : Expr} (h : e.isFloatLiteral = false) : e.written.form = e.form := by
  cases e with
  | floatImm => cases h
  | intImm i v =>
    rw [written, Written.ofInt]
    split <;> rfl
  | unary i op => cases op <;> simp [written, Written.form, form]
  | binary i op =>
    rw [written, Written.operate]
    split <;> rfl
  | stringImm | var | bitwise | cast | broadcast | call => simp [written, Written.form, form]

/-- Expressions of which the same is written have the same form. -/
theorem form_eq_of_written_eq (ha : a.isFloatLiteral = false) (hb : b.isFloatLiteral = false)
    (h : a.written = b.written) : a.form = b.form := by
  rw [← form_written ha, ← form_written hb, h]

theorem operands_of_written_eq (hform : a.form = b.form) (h : a.written = b.written) :
    a.operands.map written = b.operands.map written := by
  cases a, b, hform using form_cases with
  | intImm | floatImm | stringImm | var => rfl
  | unary i f x j g y => cases f <;> cases g <;> simp_all [written, operands]
  | binary i f x x' j g y y' =>
    rw [written, written] at h
    obtain ⟨-, hx, hx'⟩ := Written.operate_inj h
    show [x.written, x'.written] = [y.written, y'.written]
    rw [hx, hx']
  | bitwise | cast | broadcast =>
    rw [written, written] at h
    exact (Written.applied.inj h).2
  | call i s xs j t ys =>
    rw [written, written, writtenAll_eq_map, writtenAll_eq_map] at h
    exact (Written.applied.inj h).2

/-- The nodes themselves are alike: what is not written of a type follows from
the operands. -/
theorem alike_of_written_eq (hP : Legible P) (ha : a ∈ P) (hb : b ∈ P) (hform : a.form = b.form)
    (h : a.written = b.written) (hops : a.operands.map dtype = b.operands.map dtype) :
    a.sameNode b ∨ a.alike b := by
  have hta : a.NodeTyped := hP.typed a ha
  have htb : b.NodeTyped := hP.typed b hb
  cases a, b, hform using form_cases with
  | intImm i v j w =>
    rw [written, written] at h
    obtain ⟨hd, rfl⟩ := Written.ofInt_inj h
    exact .inr (by simp [alike, hd])
  | floatImm => cases hP.noFloat _ ha
  | stringImm i s j t =>
    rw [written, written] at h
    have hi : i.dtype = .handle := hta
    have hj : j.dtype = .handle := htb
    exact .inr (by simp [alike, hi, hj, Written.string.inj h])
  | var i s j t =>
    rw [written, written] at h
    obtain rfl := Written.name.inj h
    exact .inl (hP.vars i j s ha hb)
  | unary i f x j g y =>
    have hfg : f = g := by cases f <;> cases g <;> simp_all [written]
    have hij : i.dtype = j.dtype := by rw [hta.2.1, htb.2.1, (List.cons.inj hops).1]
    exact .inr (by simp [alike, hij, hfg])
  | binary i f x x' j g y y' =>
    rw [written, written] at h
    obtain ⟨rfl, -⟩ := Written.operate_inj h
    have hij : i.dtype = j.dtype := by
      rw [Operator.resultType_of_typed hta, Operator.resultType_of_typed htb,
        (List.cons.inj hops).1]
    exact .inr (by simp [alike, hij])
  | bitwise i f x x' j g y y' =>
    rw [written, written] at h
    have hfg : f = g := Head.bitwise.inj (Written.applied.inj h).1
    have hij : i.dtype = j.dtype := by rw [← hta.2.1, ← htb.2.1, (List.cons.inj hops).1]
    exact .inr (by simp [alike, hij, hfg])
  | cast i x j y =>
    rw [written, written] at h
    have hij : i.dtype = j.dtype := Head.cast.inj (Written.applied.inj h).1
    exact .inr (by simp [alike, hij])
  | broadcast i x j y =>
    rw [written, written] at h
    have hlanes : i.dtype.lanes = j.dtype.lanes := Head.broadcast.inj (Written.applied.inj h).1
    have hel : i.dtype.element = j.dtype.element := by
      rw [← hta.2.2.1, ← htb.2.2.1, (List.cons.inj hops).1]
    exact .inr (by simp [alike, DType.eq_of_element_eq hel hlanes])
  | call i s xs j t ys =>
    rw [written, written] at h
    obtain rfl := Head.call.inj (Written.applied.inj h).1
    exact .inr (by simp [alike, hP.calls i j s xs ys ha hb])

theorem equal_of_written_eq (hP : Legible P) (ha : a ∈ P) (hb : b ∈ P)
    (h : a.written = b.written) : a.equal b := by
  induction a using operand_induction generalizing b with
  | step a ih =>
    have hform : a.form = b.form := form_eq_of_written_eq (hP.noFloat a ha) (hP.noFloat b hb) h
    have hequal : equalAll a.operands b.operands :=
      equalAll_of_map_eq (fun x hx y hy hw => ih x hx (hP.operands a ha x hx)
        (hP.operands b hb y hy) hw) (operands_of_written_eq hform h)
    have hdtype : a.operands.map dtype = b.operands.map dtype :=
      map_eq_of_equalAll (fun x hx y hy hxy => dtype_eq_of_equal
        (hP.coherent x (hP.operands a ha x hx) y (hP.operands b hb y hy)) hxy) hequal
    rcases alike_of_written_eq hP ha hb hform h hdtype with hs | halike
    · exact equal_of_sameNode hs
    · exact equal_of_alike halike hequal

/-! ### From the expression to the text -/

/-- What is written of a node is decided by the node and what is written of its operands. -/
theorem written_eq_of_alike (ha : a.isFloatLiteral = false) (h : a.alike b)
    (hops : a.operands.map written = b.operands.map written) : a.written = b.written := by
  have hform : a.form = b.form := form_eq_of_alike h
  cases a, b, hform using form_cases with
  | floatImm => cases ha
  | unary i f x j g y => cases f <;> cases g <;> simp_all [written, alike, operands]
  | call i s xs j t ys =>
    rw [written, written, writtenAll_eq_map, writtenAll_eq_map]
    simp_all [alike, operands]
  | intImm | stringImm | var | binary | bitwise | cast | broadcast =>
    simp_all [written, alike, operands]

theorem written_eq_of_equal (hP : Legible P) (ha : a ∈ P) (hb : b ∈ P) (h : a.equal b) :
    a.written = b.written := by
  induction a using operand_induction generalizing b with
  | step a ih =>
    rw [equal_eq, Bool.or_eq_true, Bool.and_eq_true] at h
    rcases h with hs | ⟨halike, hequal⟩
    · rw [hP.coherent a ha b hb hs]
    · refine written_eq_of_alike (hP.noFloat a ha) halike (map_eq_of_equalAll ?_ hequal)
      intro x hx y hy hxy
      exact ih x hx (hP.operands a ha x hx) (hP.operands b hb y hy) hxy

end Expr

open Lanewise.Expr

/-- **The canonical text is faithful.** For expressions of one run without
floats, whose names are names that no other head has, the text tells the
expressions up to equality, if a name names one variable and calls of one type. -/
theorem render_eq_iff_equal {w : World} (h : Reachable w) {a b : Expr} (ha : w.Has a)
    (hb : w.Has b) (hpa : a.Printable) (hpb : b.Printable)
    (hvars : ∀ i j name, (var i name).Occurs a ∨ (var i name).Occurs b →
      (var j name).Occurs a ∨ (var j name).Occurs b → (var i name).sameNode (var j name))
    (hcalls : ∀ i j name xs ys, (call i name xs).Occurs a ∨ (call i name xs).Occurs b →
      (call j name ys).Occurs a ∨ (call j name ys).Occurs b → i.dtype = j.dtype) :
    a.render = b.render ↔ a.equal b := by
  have hP : Legible {n | n.Occurs a ∨ n.Occurs b} := by
    obtain ⟨Q, hQ, hexprs, -⟩ := h.sound
    have hmem : ∀ n, n.Occurs a ∨ n.Occurs b → n ∈ Q := fun n hn =>
      hn.elim (fun hn => hQ.occurs hn (World.Sound.has hQ hexprs ha))
        fun hn => hQ.occurs hn (World.Sound.has hQ hexprs hb)
    refine ⟨fun e he x hx => ?_, fun x hx y hy hxy => ?_, fun e he => hQ.typed e (hmem e he),
      fun e he => ?_, hvars, hcalls⟩
    · exact he.imp (Occurs.of_mem hx).trans (Occurs.of_mem hx).trans
    · exact hQ.coherent x (hmem x hx) y (hmem y hy) (of_decide_eq_true hxy)
    · have hprint : e.NodePrintable := he.elim (hpa e) (hpb e)
      cases e with
      | floatImm => exact hprint.elim
      | _ => rfl
  have hoa : a ∈ {n | n.Occurs a ∨ n.Occurs b} := .inl .root
  have hob : b ∈ {n | n.Occurs a ∨ n.Occurs b} := .inr .root
  have hta : a.WellTyped := fun n hn => hP.typed n (.inl hn)
  have htb : b.WellTyped := fun n hn => hP.typed n (.inr hn)
  constructor
  · intro hrender
    refine equal_of_written_eq hP hoa hob (Written.text_inj (wf_written hta hpa)
      (wf_written htb hpb) ?_)
    rw [text_written, text_written, hrender]
  · intro hequal
    have hwritten : a.written = b.written := written_eq_of_equal hP hoa hob hequal
    rw [← String.toList_inj, ← text_written, ← text_written, hwritten]

namespace World

/-- The product that is built with the numbers from `i` on. -/
def product (i : Nat) : Expr :=
  .binary ⟨i + 2, ⟨.int, 64, 4⟩⟩ .mul vector
    (.broadcast ⟨i + 1, ⟨.int, 64, 4⟩⟩ (.intImm ⟨i, .int 64⟩ 3))

theorem occurs_product {i : Nat} {n : Expr} (h : n.Occurs (product i)) :
    n = product i ∨ n = vector ∨ n = .broadcast ⟨i + 1, ⟨.int, 64, 4⟩⟩ (.intImm ⟨i, .int 64⟩ 3) ∨
      n = .intImm ⟨i, .int 64⟩ 3 := by
  have hleaf : ∀ {e : Expr}, e.operands = [] → n.Occurs e → n = e := fun he hn => by
    rcases occurs_iff.mp hn with hn | ⟨x, hx, -⟩
    · exact hn
    · rw [he] at hx
      simp at hx
  rcases occurs_iff.mp h with h | ⟨x, hx, h⟩
  · exact .inl h
  rcases List.mem_cons.mp hx with rfl | hx
  · exact .inr (.inl (hleaf rfl h))
  obtain rfl := List.mem_singleton.mp hx
  rcases occurs_iff.mp h with h | ⟨x, hx, h⟩
  · exact .inr (.inr (.inl h))
  obtain rfl := List.mem_singleton.mp hx
  exact .inr (.inr (.inr (hleaf rfl h)))

theorem printable_product (i : Nat) : (product i).Printable := by
  intro n hn
  rcases occurs_product hn with rfl | rfl | rfl | rfl
  · trivial
  · exact (by decide : Text.isIdentifier "x".toList)
  · trivial
  · trivial

/-- Both products have one text. -/
theorem products_render_iff : Reachable products ∧ products.Has (product 2) ∧
    products.Has (product 5) ∧ (product 2).Printable ∧ (product 5).Printable ∧
    ((product 2).render = (product 5).render ↔ (product 2).equal (product 5)) := by
  have h2 : products.Has (product 2) := ⟨_, .tail _ (.head _), .root⟩
  have h5 : products.Has (product 5) := ⟨_, .head _, .root⟩
  have hvar : ∀ i name, (var i name).Occurs (product 2) ∨ (var i name).Occurs (product 5) →
      var i name = vector := by
    rintro i name (h | h) <;> rcases occurs_product h with h | h | h | h <;>
      first | exact h | cases h
  have hcall : ∀ i name xs,
      ¬ ((call i name xs).Occurs (product 2) ∨ (call i name xs).Occurs (product 5)) := by
    rintro i name xs (h | h) <;> rcases occurs_product h with h | h | h | h <;> cases h
  refine ⟨reachable_products, h2, h5, printable_product 2, printable_product 5,
    render_eq_iff_equal reachable_products h2 h5 (printable_product 2) (printable_product 5)
      (fun i j name hi hj => ?_) (fun i j name xs ys hi => absurd hi (hcall i name xs))⟩
  rw [hvar i name hi, hvar j name hj]
  decide

end World

end Lanewise
