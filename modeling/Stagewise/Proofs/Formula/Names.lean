import Stagewise.Proofs.Formula.FilterItem
import Stagewise.Proofs.Formula.LongForm

/-! The names in an expression, node by node. A formula that has been read has no other names than
those among its tokens and the one of the item. -/

namespace Stagewise

namespace Expression

section

variable {e c new found : Expression} {n : String} {i : Nat} {place : List Nat}

theorem mem_namesAll {es : List Expression} : n ∈ namesAll es ↔ ∃ e ∈ es, n ∈ e.names := by
  induction es with
  | nil => simp [namesAll]
  | cons e es ih => simp [namesAll, ih]

theorem mem_names_iff : n ∈ e.names ↔
    e = name n ∨ (∃ body, e = lambda n body) ∨ ∃ c ∈ e.children, n ∈ c.names := by
  cases e with
  | array items | call _ items => simp [names, children, mem_namesAll]
  | name m => simp [names, children, eq_comm]
  | lambda param body => simp [names, children, eq_comm]
  | _ => simp [names, children]

theorem mem_names_of_child (hc : e.children[i]? = some c) (h : n ∈ c.names) : n ∈ e.names :=
  mem_names_iff.mpr (.inr (.inr ⟨c, List.mem_of_getElem? hc, h⟩))

theorem mem_names_of_mem_freeNames {bound : List String} (h : n ∈ freeNames bound e) :
    n ∈ e.names := by
  induction e using induction_on_children generalizing bound with
  | step e ih =>
    rcases mem_freeNames_cases h with ⟨rfl, -⟩ | ⟨i, c, bound', hc, hfree, -, -⟩
    · exact List.mem_singleton_self n
    · exact mem_names_of_child hc (ih c (List.mem_of_getElem? hc) hfree)

theorem mem_names_withChildren {es : List Expression} (hes : es.length = e.children.length)
    (h : n ∈ (e.withChildren es).names) : n ∈ e.names ∨ ∃ c ∈ es, n ∈ c.names := by
  cases e with
  | literal | name =>
    obtain rfl := List.eq_nil_of_length_eq_zero hes
    exact .inl h
  | array | call => exact .inr (mem_namesAll.mp h)
  | member | projection | length | unary =>
    obtain ⟨a, rfl⟩ := List.length_eq_one_iff.mp hes
    exact .inr ⟨a, List.mem_singleton_self a, h⟩
  | lambda param body =>
    obtain ⟨a, rfl⟩ := List.length_eq_one_iff.mp hes
    rcases List.mem_cons.mp h with rfl | h
    · exact .inl List.mem_cons_self
    · exact .inr ⟨a, List.mem_singleton_self a, h⟩
  | index | filter | binary =>
    match es, hes with
    | [a, b], _ => exact .inr (by simpa [withChildren, names] using h)
  | conditional =>
    match es, hes with
    | [a, b, c], _ => exact .inr (by simpa [withChildren, names] using h)

theorem mem_names_setAt (h : e.Reaches children place found) (hn : n ∈ (setAt new place e).names) :
    n ∈ new.names ∨ n ∈ e.names := by
  induction h with
  | here => exact .inl hn
  | @child e c found i place hc _ ih =>
    rw [setAt_child hc] at hn
    rcases mem_names_withChildren (List.length_set ..) hn with hn | ⟨d, hd, hn⟩
    · exact .inr hn
    · rcases List.mem_or_eq_of_mem_set hd with hd | rfl
      · exact .inr (mem_names_iff.mpr (.inr (.inr ⟨d, hd, hn⟩)))
      · exact (ih hn).imp_right (mem_names_of_child hc)

theorem names_itemRead (n : String) : (itemRead n).names = [itemName] := by
  unfold itemRead
  split <;> rfl

theorem mem_names_boundToItem (h : n ∈ e.boundToItem.names) : n = itemName ∨ n ∈ e.names := by
  rcases boundToItem_cases e with ⟨place, m, hlead, he⟩ | ⟨-, he⟩
  · rw [he] at h
    have hplace : e.Reaches children place (name m) :=
      hlead.found.mono fun _ _ _ => getElem?_children_of_open
    rcases mem_names_setAt hplace h with h | h
    · rw [names_itemRead] at h
      exact .inl (List.mem_singleton.mp h)
    · exact .inr h
  · exact .inr (he ▸ h)

end

end Expression

namespace Grammar

open Expression

/-- The names that tokens write. -/
def Writes (ts : List Token) (n : String) : Prop :=
  ∃ p, ⟨.name n, p⟩ ∈ ts

theorem Writes.of_suffix {ts us : List Token} {n : String} (h : Writes us n) (hs : us <:+ ts) :
    Writes ts n := by
  obtain ⟨p, hp⟩ := h
  exact ⟨p, hs.mem hp⟩

theorem LiteralIndex.suffix {ts rest : List Token} {v : Value} (h : LiteralIndex ts v rest) :
    rest <:+ ts := by
  cases h with
  | number => exact (List.suffix_cons _ _).trans (List.suffix_cons _ _)
  | text => exact (List.suffix_cons _ _).trans (List.suffix_cons _ _)
  | negated =>
    exact ((List.suffix_cons _ _).trans (List.suffix_cons _ _)).trans (List.suffix_cons _ _)

theorem Derives.suffix {phrase : Phrase} {ts rest : List Token} {e : Expression} {k m : Nat}
    (h : Derives phrase ts rest e k m) : rest <:+ ts := by
  have htail {token : Token} {us vs : List Token} (h : token :: us <:+ vs) : us <:+ vs :=
    (List.suffix_cons _ _).trans h
  induction h with
  | plain _ ih | single _ ih | tighter _ ih | unsigned _ ih | bare _ ih | nonempty _ ih => exact ih
  | conditional _ _ _ iha ihb ihc => exact ihc.trans (htail (ihb.trans (htail iha)))
  | operation _ _ _ iha ihb | more _ _ iha ihb => exact ihb.trans (htail iha)
  | signed _ _ ih => exact ih.trans (List.suffix_cons _ _)
  | length _ ih | member _ _ ih => exact htail (htail ih)
  | projection _ ih => exact htail (htail (htail (htail ih)))
  | index _ literal ih => exact literal.suffix.trans (htail ih)
  | filter _ _ _ iha ihb => exact htail (ihb.trans (htail iha))
  | call _ _ _ iha ihb => exact ihb.trans (htail iha)
  | number | text | keyword | name | empty => exact List.suffix_cons _ _
  | lambda _ _ _ ih => exact ih.trans (htail (List.suffix_cons _ _))
  | group _ ih => exact htail (ih.trans (List.suffix_cons _ _))
  | array _ ih => exact ih.trans (List.suffix_cons _ _)
  | last _ ih => exact htail ih

theorem Derives.writes {phrase : Phrase} {ts rest : List Token} {e : Expression} {k m : Nat}
    (h : Derives phrase ts rest e k m) {n : String} (hn : n ∈ e.names) :
    n = itemName ∨ Writes ts n := by
  have hlater {token : Token} {us vs : List Token} (hs : token :: us <:+ vs)
      (h : n = itemName ∨ Writes us n) : n = itemName ∨ Writes vs n :=
    h.imp_right fun h => h.of_suffix ((List.suffix_cons _ _).trans hs)
  induction h with
  | plain _ ih | single _ ih | tighter _ ih | unsigned _ ih | bare _ ih | nonempty _ ih
  | length _ ih | member _ _ ih | projection _ ih | last _ ih =>
    exact ih (by simpa [names, namesAll] using hn)
  | conditional test consequent _ iha ihb ihc =>
    have hconsequent := consequent.suffix.trans ((List.suffix_cons _ _).trans test.suffix)
    simp only [names, List.mem_append] at hn
    rcases hn with (hn | hn) | hn
    · exact iha hn
    · exact hlater test.suffix (ihb hn)
    · exact hlater hconsequent (ihc hn)
  | operation _ left _ iha ihb =>
    rcases List.mem_append.mp hn with hn | hn
    · exact iha hn
    · exact hlater left.suffix (ihb hn)
  | signed _ _ ih | group _ ih | array _ ih => exact hlater List.suffix_rfl (ih hn)
  | index _ _ ih => exact ih (by simpa [names] using hn)
  | filter source _ _ iha ihb =>
    rcases List.mem_append.mp hn with hn | hn
    · exact iha hn
    · rcases mem_names_boundToItem hn with hn | hn
      · exact .inl hn
      · exact hlater source.suffix (ihb hn)
  | call callee _ _ _ ih => exact hlater callee.suffix (ih hn)
  | number | text | keyword | empty => cases hn
  | name =>
    obtain rfl := List.mem_singleton.mp hn
    exact .inr ⟨_, List.mem_cons_self⟩
  | lambda _ _ _ ih =>
    rcases List.mem_cons.mp hn with rfl | hn
    · exact .inr ⟨_, List.mem_cons_self⟩
    · exact hlater (List.suffix_cons _ _) (ih hn)
  | more first _ iha ihb =>
    rcases List.mem_append.mp hn with hn | hn
    · exact iha hn
    · exact hlater first.suffix (ihb hn)

end Grammar

theorem Formula.writes_of_parse {source : String} {f : Formula} {n : String}
    (h : parse source = .ok f) (hn : n ∈ f.expression.names) :
    n = Expression.itemName ∨
      ∃ tokens, Token.ofText source = .ok tokens ∧ Grammar.Writes tokens n := by
  obtain ⟨e, he, rfl⟩ := Outcome.map_eq_ok_iff.mp h
  obtain ⟨-, -, tokens, levels, htokens, ⟨k, p, hderives⟩, -, -⟩ :=
    Grammar.parseExpression_eq_ok_iff.mp he
  exact (hderives.writes hn).imp_right fun hwrites => ⟨tokens, htokens, hwrites⟩

end Stagewise
