import Stagewise.Formula.Tree
import Stagewise.Proofs.Formula.Display
import Stagewise.Proofs.Formula.Names

/-! Expressions whose labels can be read. The names in a formula that has been read are made of the
characters of names, its literals are scalars, so every label of it is on one line. -/

namespace Stagewise

namespace Expression

/-- What a node holds itself, as formulas have it: a scalar, or a name without a line break. -/
def Readable : Expression → Prop
  | literal v => v.Scalar
  | name n | member _ n | projection _ n | call n _ | lambda n _ => '\n' ∉ n.toList
  | _ => True

/-- Every node is readable. -/
inductive Legible : Expression → Prop where
  | node {e : Expression} (here : e.Readable) (below : ∀ c ∈ e.children, Legible c) : Legible e

theorem Readable.newline_notMem_label {e : Expression} (h : e.Readable) :
    '\n' ∉ e.label.toList := by
  cases e with
  | literal v =>
    have hv := Value.Scalar.newline_notMem_display h
    simp [label, hv]
  | name | member | projection | call | lambda =>
    have hn : '\n' ∉ String.toList _ := h
    simp [label, hn]
  | array items =>
    have hdigits : '\n' ∉ Nat.toDigits 10 items.length :=
      fun hmem => absurd (isNumberChar_toDigits _ hmem) (by decide)
    simp [label, hdigits]
  | unary op => cases op <;> simp [label, UnaryOp.symbol]
  | binary op => cases op <;> simp [label, BinaryOp.symbol]
  | index | filter | length | conditional => simp [label]

namespace Legible

variable {e c new found : Expression} {es : List Expression} {n : String} {place : List Nat}

theorem readable (h : e.Legible) : e.Readable := by
  cases h with
  | node here _ => exact here

theorem leaf (here : e.Readable) (hchildren : e.children = []) : e.Legible :=
  .node here (by simp [hchildren])

theorem child (h : e.Legible) (hc : c ∈ e.children) : c.Legible := by
  cases h with
  | node _ below => exact below c hc

theorem array_iff : (array es).Legible ↔ ∀ e ∈ es, e.Legible :=
  ⟨fun h _ he => h.child he, fun h => .node trivial h⟩

theorem reached {below : Expression → List Expression} (hb : ∀ e, ∀ c ∈ below e, c ∈ e.children)
    (h : e.Legible) (hfound : e.Reaches below place found) : found.Legible := by
  induction hfound with
  | here => exact h
  | child hc _ ih => exact ih (h.child (hb _ _ (List.mem_of_getElem? hc)))

theorem withChildren (h : e.Legible) (hlength : es.length = e.children.length)
    (hes : ∀ c ∈ es, c.Legible) : (e.withChildren es).Legible := by
  refine .node ?_ fun c hc => hes c (children_withChildren hlength ▸ hc)
  have hhere := h.readable
  cases e with
  | literal | name | array | call => exact hhere
  | member | projection | length | unary | lambda =>
    obtain ⟨a, rfl⟩ := List.length_eq_one_iff.mp hlength
    exact hhere
  | index | filter | binary =>
    obtain ⟨a, b, rfl⟩ := List.length_eq_two.mp hlength
    exact hhere
  | conditional =>
    obtain ⟨a, b, c, rfl⟩ := List.length_eq_three.mp hlength
    exact hhere

theorem setAt (h : e.Legible) (hplace : e.Reaches children place found) (hnew : new.Legible) :
    (setAt new place e).Legible := by
  refine hplace.setAt_congr (R := fun e e' => e.Legible → e'.Legible) ?_ (fun _ => hnew) h
  intro e c c' i hc hcc' he
  refine he.withChildren (List.length_set ..) fun d hd => ?_
  rcases List.mem_or_eq_of_mem_set hd with hd | rfl
  · exact he.child hd
  · exact hcc' (he.child (List.mem_of_getElem? hc))

theorem itemRead (h : '\n' ∉ n.toList) : (itemRead n).Legible := by
  have hitem : (name itemName).Legible := .leaf (show '\n' ∉ itemName.toList by decide) rfl
  unfold Expression.itemRead
  split
  · exact .node trivial (by simpa [children] using hitem)
  · exact .node h (by simpa [children] using hitem)

theorem boundToItem (h : e.Legible) : e.boundToItem.Legible := by
  rcases boundToItem_cases e with ⟨place, n, hlead, he⟩ | ⟨-, he⟩
  · have hplace : e.Reaches children place (name n) :=
      hlead.found.mono fun _ _ _ => getElem?_children_of_open
    rw [he]
    exact h.setAt hplace (.itemRead (h.reached (fun _ _ => id) hplace).readable)
  · rwa [he]

theorem dotted {path : String} (h : e.Legible) (hpath : Grammar.Dotted e path) :
    '\n' ∉ path.toList := by
  induction hpath with
  | name n => exact h.readable
  | @member object path property _ ih =>
    have hobject := ih (h.child List.mem_cons_self)
    have hproperty : '\n' ∉ property.toList := h.readable
    simp [String.toList_append, hobject, hproperty]

end Legible

end Expression

namespace Grammar

open Expression

/-- No name among the tokens has a line break. -/
def OneLined (ts : List Token) : Prop :=
  ∀ n, Writes ts n → '\n' ∉ n.toList

theorem OneLined.of_suffix {ts us : List Token} (h : OneLined ts) (hs : us <:+ ts) : OneLined us :=
  fun n hn => h n (hn.of_suffix hs)

theorem OneLined.after {token : Token} {ts us : List Token} (h : OneLined ts)
    (hs : token :: us <:+ ts) : OneLined us :=
  h.of_suffix ((List.suffix_cons _ _).trans hs)

theorem OneLined.name {n : String} {p : Nat} {ts us : List Token} (h : OneLined ts)
    (hs : ⟨.name n, p⟩ :: us <:+ ts) : '\n' ∉ n.toList :=
  h n ⟨p, hs.mem List.mem_cons_self⟩

theorem LiteralIndex.scalar {ts rest : List Token} {v : Value} (h : LiteralIndex ts v rest) :
    v.Scalar := by
  cases h with
  | number | negated => exact .number _
  | text => exact .text _

theorem scalar_of_mem_keywords {n : String} {v : Value} (h : (n, v) ∈ keywords) : v.Scalar := by
  simp only [keywords, List.mem_cons, List.not_mem_nil, Prod.mk.injEq, or_false] at h
  rcases h with ⟨-, rfl⟩ | ⟨-, rfl⟩ | ⟨-, rfl⟩ | ⟨-, rfl⟩
  · exact .bool true
  · exact .bool false
  · exact .null
  · exact .null

theorem Derives.legible {phrase : Phrase} {ts rest : List Token} {e : Expression} {k m : Nat}
    (h : Derives phrase ts rest e k m) (hts : OneLined ts) : e.Legible := by
  have hliteral {v : Value} (hv : v.Scalar) : (literal v).Legible := .leaf hv rfl
  induction h with
  | plain _ ih | single _ ih | tighter _ ih | unsigned _ ih | bare _ ih | nonempty _ ih =>
    exact ih hts
  | conditional test consequent _ iha ihb ihc =>
    have hus := hts.after test.suffix
    have hvs := hus.after consequent.suffix
    exact .node trivial (by simp [children, iha hts, ihb hus, ihc hvs])
  | operation _ left _ iha ihb =>
    exact .node trivial (by simp [children, iha hts, ihb (hts.after left.suffix)])
  | signed _ _ ih => exact .node trivial (by simp [children, ih (hts.after List.suffix_rfl)])
  | length _ ih => exact .node trivial (by simp [children, ih hts])
  | member _ h ih =>
    have hname := hts.after h.suffix
    exact .node (hname.name List.suffix_rfl) (by simp [children, ih hts])
  | projection h ih =>
    have hname := ((hts.after h.suffix).after List.suffix_rfl).after List.suffix_rfl
    exact .node (hname.name List.suffix_rfl) (by simp [children, ih hts])
  | index _ literal ih =>
    exact .node trivial (by simp [children, ih hts, hliteral literal.scalar])
  | filter h _ _ iha ihb =>
    have hpredicate := (ihb (hts.after h.suffix)).boundToItem
    exact .node trivial (by simp [children, iha hts, hpredicate])
  | call h callee _ iha ihargs =>
    have hargs := Legible.array_iff.mp (ihargs (hts.after h.suffix))
    exact .node ((iha hts).dotted callee) hargs
  | number => exact hliteral (.number _)
  | text => exact hliteral (.text _)
  | keyword known => exact hliteral (scalar_of_mem_keywords known)
  | name => exact .leaf (hts.name List.suffix_rfl) rfl
  | lambda _ _ _ ih =>
    have hbody := ih ((hts.after List.suffix_rfl).after List.suffix_rfl)
    exact .node (hts.name List.suffix_rfl) (by simp [children, hbody])
  | group _ ih | array _ ih => exact ih (hts.after List.suffix_rfl)
  | empty => exact Legible.array_iff.mpr (by simp)
  | last _ ih => exact Legible.array_iff.mpr (by simp [ih hts])
  | more first _ iha ihes =>
    have hes := Legible.array_iff.mp (ihes (hts.after first.suffix))
    exact Legible.array_iff.mpr (by simpa [iha hts] using hes)

theorem oneLined_ofText {source : String} {tokens : List Token}
    (h : Token.ofText source = .ok tokens) : OneLined tokens := by
  rintro n ⟨p, hmem⟩ hn
  exact absurd (isNamePart_of_scan h hmem hn) (by decide)

end Grammar

theorem Formula.legible_of_parse {source : String} {f : Formula} (h : parse source = .ok f) :
    f.expression.Legible := by
  obtain ⟨e, he, rfl⟩ := Outcome.map_eq_ok_iff.mp h
  obtain ⟨-, -, tokens, levels, htokens, ⟨k, p, hderives⟩, -, -⟩ :=
    Grammar.parseExpression_eq_ok_iff.mp he
  exact hderives.legible (Grammar.oneLined_ofText htokens)

end Stagewise
