import Stagewise.Proofs.Formula.Noninterference
import Stagewise.Proofs.Formula.Place
import Stagewise.Proofs.Grammar.Exactness
import Stagewise.Proofs.Token.Front

/-! The item of a bracket filter. Binding a predicate changes its leading name and nothing else. An
expression that has been read holds items in the predicates of its filters only, where the binding
of a filter further out does not look, so no item is ever bound again. -/

namespace Stagewise

namespace Expression

/-- The first name, from left to right, that stands in no arrow function and in no predicate of a
bracket filter. -/
structure LeadingName (e : Expression) (place : List Nat) (n : String) : Prop where
  found : e.Reaches openChildren place (name n)
  first : ∀ other m, e.Reaches openChildren other (name m) → other = place ∨ LeftOf place other

theorem LeadingName.unique {e : Expression} {place place' : List Nat} {n n' : String}
    (h : e.LeadingName place n) (h' : e.LeadingName place' n') : place = place' ∧ n = n' := by
  have hplace : place = place' := by
    rcases h.first place' n' h'.found with he | hlt
    · exact he.symm
    · rcases h'.first place n h.found with he | hlt'
      · exact he
      · exact absurd hlt' hlt.not_leftOf
  subst hplace
  exact ⟨rfl, name.inj (h.found.unique h'.found)⟩

section

variable {e e' : Expression} {es es' : List Expression}

theorem bindItemIn?_eq_none_iff : bindItemIn? es = none ↔ ∀ e ∈ es, e.bindItem? = none := by
  induction es with
  | nil => simp [bindItemIn?]
  | cons e es ih =>
    rw [bindItemIn?, List.forall_mem_cons, ← ih]
    cases e.bindItem? <;> simp

theorem of_bindItemIn?_eq_some (h : bindItemIn? es = some es') :
    ∃ (i : Nat) (e e' : Expression), es[i]? = some e ∧ e.bindItem? = some e' ∧ es' = es.set i e' ∧
      ∀ j d, j < i → es[j]? = some d → d.bindItem? = none := by
  induction es generalizing es' with
  | nil => cases h
  | cons first rest ih =>
    rw [bindItemIn?] at h
    cases hfirst : first.bindItem? with
    | some bound =>
      rw [hfirst] at h
      obtain rfl := Option.some.inj h
      exact ⟨0, first, bound, rfl, hfirst, rfl, by simp⟩
    | none =>
      rw [hfirst] at h
      obtain ⟨rest', hrest, rfl⟩ := Option.map_eq_some_iff.mp h
      obtain ⟨i, e, e', he, hbind, rfl, hbefore⟩ := ih hrest
      refine ⟨i + 1, e, e', he, hbind, rfl, fun j d hj hd => ?_⟩
      cases j with
      | zero =>
        obtain rfl : first = d := by simpa using hd
        exact hfirst
      | succ j => exact hbefore j d (by omega) (by simpa using hd)

theorem bindItem?_of_ne_name (h : ∀ n, e ≠ name n) :
    e.bindItem? = (bindItemIn? e.openChildren).map fun es =>
      e.withChildren (es ++ e.children.drop e.openChildren.length) := by
  cases e with
  | name n => exact absurd rfl (h n)
  | literal | lambda => rfl
  | array items | call callee items =>
    simp only [bindItem?, openChildren, children, List.drop_length, List.append_nil]
    rfl
  | member a | projection a | length a | unary _ a | filter a =>
    simp only [bindItem?, openChildren, children, bindItemIn?]
    cases a.bindItem? <;> rfl
  | index a b | binary _ a b =>
    simp only [bindItem?, openChildren, children, bindItemIn?]
    cases a.bindItem? <;> cases b.bindItem? <;> rfl
  | conditional a b c =>
    simp only [bindItem?, openChildren, children, bindItemIn?]
    cases a.bindItem? <;> cases b.bindItem? <;> cases c.bindItem? <;> rfl

theorem bindItem?_ne_none_of_reaches {place : List Nat} {n : String}
    (h : e.Reaches openChildren place (name n)) : e.bindItem? ≠ none := by
  generalize hfound : name n = found at h
  induction h with
  | here e =>
    subst hfound
    exact Option.some_ne_none _
  | @child e c found i place hc _ ih =>
    have hname : ∀ m, e ≠ name m := by
      rintro m rfl
      cases hc
    intro hnone
    rw [bindItem?_of_ne_name hname, Option.map_eq_none_iff, bindItemIn?_eq_none_iff] at hnone
    exact ih hfound (hnone c (List.mem_of_getElem? hc))

theorem set_append_drop {i : Nat} {c c' : Expression} (h : e.openChildren[i]? = some c) :
    e.openChildren.set i c' ++ e.children.drop e.openChildren.length = e.children.set i c' := by
  obtain ⟨hi, -⟩ := List.getElem?_eq_some_iff.mp h
  conv => rhs; rw [children_eq_openChildren_append]
  rw [List.set_append_left _ _ hi]

theorem exists_leadingName (h : e.bindItem? = some e') :
    ∃ place n, e.LeadingName place n ∧ e' = setAt (itemRead n) place e := by
  induction e using induction_on_children generalizing e' with
  | step e ih =>
    by_cases hname : ∃ n, e = name n
    · obtain ⟨n, rfl⟩ := hname
      obtain rfl := Option.some.inj h
      refine ⟨[], n, ⟨.here _, fun other m hother => ?_⟩, rfl⟩
      cases hother with
      | here => exact .inl rfl
      | child hc _ => cases hc
    · rw [bindItem?_of_ne_name (not_exists.mp hname)] at h
      obtain ⟨es', hes, rfl⟩ := Option.map_eq_some_iff.mp h
      obtain ⟨i, c, c', hc, hbind, rfl, hbefore⟩ := of_bindItemIn?_eq_some hes
      have hchild := getElem?_children_of_open hc
      obtain ⟨place, n, hlead, rfl⟩ := ih c (List.mem_of_getElem? hchild) hbind
      refine ⟨i :: place, n, ⟨.child hc hlead.found, fun other m hother => ?_⟩, ?_⟩
      · cases hother with
        | here => exact absurd ⟨m, rfl⟩ hname
        | @child _ d _ j other hd hother =>
          rcases Nat.lt_trichotomy j i with hlt | rfl | hlt
          · exact absurd (hbefore j d hlt hd) (bindItem?_ne_none_of_reaches hother)
          · obtain rfl := Option.some.inj (hc.symm.trans hd)
            rcases hlead.first other m hother with rfl | hleft
            · exact .inl rfl
            · exact .inr (.cons hleft)
          · exact .inr (.rel hlt)
      · rw [set_append_drop hc, setAt_child hchild]

theorem bindItem?_eq_some_iff :
    e.bindItem? = some e' ↔
      ∃ place n, e.LeadingName place n ∧ e' = setAt (itemRead n) place e := by
  constructor
  · exact exists_leadingName
  · rintro ⟨place, n, hlead, rfl⟩
    have hbinds := bindItem?_ne_none_of_reaches hlead.found
    obtain ⟨bound, hbound⟩ := Option.ne_none_iff_exists'.mp hbinds
    obtain ⟨place', n', hlead', rfl⟩ := exists_leadingName hbound
    obtain ⟨rfl, rfl⟩ := hlead.unique hlead'
    exact hbound

theorem bindItem?_eq_none_iff :
    e.bindItem? = none ↔ ∀ place n, ¬e.Reaches openChildren place (name n) := by
  constructor
  · exact fun h place n hn => bindItem?_ne_none_of_reaches hn h
  · intro h
    cases hbind : e.bindItem? with
    | none => rfl
    | some e' =>
      obtain ⟨place, n, hlead, -⟩ := exists_leadingName hbind
      exact absurd hlead.found (h place n)

end

/-- Every item stands in the predicate of a bracket filter. -/
def NoOwnItem (e : Expression) : Prop :=
  ∀ place, ¬e.Reaches ownChildren place (name itemName)

/-- The predicate of a bracket filter has been bound once, and no arrow function binds the item. -/
def WellBound : Expression → Prop
  | filter _ predicate => ∃ read : Expression, read.NoOwnItem ∧ predicate = read.boundToItem
  | lambda param _ => param ≠ itemName
  | _ => True

structure Hygienic (e : Expression) : Prop where
  noOwnItem : e.NoOwnItem
  wellBound : ∀ place found, e.Reaches children place found → found.WellBound

section

variable {e c new found : Expression} {i : Nat} {place : List Nat}

theorem noOwnItem_of_children (he : e ≠ name itemName)
    (hc : ∀ c ∈ e.ownChildren, c.NoOwnItem) : e.NoOwnItem := by
  intro place h
  cases h with
  | here => exact he rfl
  | child hchild h => exact hc _ (List.mem_of_getElem? hchild) _ h

theorem wellBound_of_children (he : e.WellBound)
    (hc : ∀ c ∈ e.children, ∀ place found, c.Reaches children place found → found.WellBound) :
    ∀ place found, e.Reaches children place found → found.WellBound := by
  intro place found h
  cases h with
  | here => exact he
  | child hchild h => exact hc _ (List.mem_of_getElem? hchild) _ _ h

namespace Hygienic

theorem of_children (he : e ≠ name itemName) (hb : e.WellBound)
    (hc : ∀ c ∈ e.children, c.Hygienic) : e.Hygienic where
  noOwnItem := noOwnItem_of_children he fun c hmem => by
    obtain ⟨i, hi⟩ := List.getElem?_of_mem hmem
    exact (hc c (List.mem_of_getElem? (getElem?_children_of_own hi))).noOwnItem
  wellBound := wellBound_of_children hb fun c hmem => (hc c hmem).wellBound

theorem child (h : e.Hygienic) (hc : e.ownChildren[i]? = some c) : c.Hygienic where
  noOwnItem place hplace := h.noOwnItem (i :: place) (.child hc hplace)
  wellBound place found hplace :=
    h.wellBound (i :: place) found (.child (getElem?_children_of_own hc) hplace)

end Hygienic

/-- An open child is neither a predicate nor the body of an arrow function, so it can be changed. -/
theorem WellBound.withChildren (h : e.WellBound) (hc : e.openChildren[i]? = some c) :
    (e.withChildren (e.children.set i new)).WellBound := by
  cases e with
  | filter source predicate =>
    cases i with
    | zero => exact h
    | succ i => simp [openChildren] at hc
  | lambda param body => cases hc
  | index | binary =>
    rcases i with _ | _ | i <;> trivial
  | conditional =>
    rcases i with _ | _ | _ | i <;> trivial
  | member | projection | length | unary =>
    cases i <;> trivial
  | _ => trivial

theorem wellBound_setAt (h : e.Reaches openChildren place found)
    (hnew : ∀ place x, new.Reaches children place x → x.WellBound)
    (he : ∀ place x, e.Reaches children place x → x.WellBound) :
    ∀ place' x, (setAt new place e).Reaches children place' x → x.WellBound := by
  induction h with
  | here e => exact hnew
  | @child e c found i place hc _ ih =>
    have hchild := getElem?_children_of_open hc
    have hbelow : ∀ d ∈ e.children, ∀ place x, d.Reaches children place x → x.WellBound := by
      intro d hd place x hx
      obtain ⟨j, hj⟩ := List.getElem?_of_mem hd
      exact he (j :: place) x (.child hj hx)
    rw [setAt_child hchild]
    refine wellBound_of_children ((he [] e (.here e)).withChildren hc) fun d hd => ?_
    rw [children_withChildren (List.length_set ..)] at hd
    rcases List.mem_or_eq_of_mem_set hd with hd | rfl
    · exact hbelow d hd
    · exact ih (hbelow c (List.mem_of_getElem? hchild))

theorem wellBound_itemRead (n : String) :
    ∀ place x, (itemRead n).Reaches children place x → x.WellBound := by
  have hitem : ∀ c ∈ (itemRead n).children, c = name itemName := by
    unfold itemRead
    split <;> simp [children]
  refine wellBound_of_children (by unfold itemRead; split <;> trivial) fun c hc => ?_
  obtain rfl := hitem c hc
  exact wellBound_of_children trivial (by simp [children])

theorem boundToItem_cases (e : Expression) :
    (∃ place n, e.LeadingName place n ∧ e.boundToItem = setAt (itemRead n) place e) ∨
      (∀ place n, ¬e.Reaches openChildren place (name n)) ∧ e.boundToItem = e := by
  unfold boundToItem
  cases hbind : e.bindItem? with
  | none => exact .inr ⟨bindItem?_eq_none_iff.mp hbind, rfl⟩
  | some e' => exact .inl (bindItem?_eq_some_iff.mp hbind)

theorem Hygienic.wellBound_boundToItem (h : e.Hygienic) :
    ∀ place x, e.boundToItem.Reaches children place x → x.WellBound := by
  rcases boundToItem_cases e with ⟨place, n, hlead, he⟩ | ⟨-, he⟩
  · rw [he]
    exact wellBound_setAt hlead.found (wellBound_itemRead n) h.wellBound
  · rw [he]
    exact h.wellBound

theorem Hygienic.filter {source read : Expression} (hs : source.Hygienic) (hr : read.Hygienic) :
    (Expression.filter source read.boundToItem).Hygienic where
  noOwnItem := noOwnItem_of_children (by simp) (by simpa [ownChildren] using hs.noOwnItem)
  wellBound := by
    refine wellBound_of_children ⟨read, hr.noOwnItem, rfl⟩ fun c hc => ?_
    simp only [children, List.mem_cons, List.not_mem_nil, or_false] at hc
    rcases hc with rfl | rfl
    · exact hs.wellBound
    · exact hr.wellBound_boundToItem

theorem ownChildren_withChildren (new : Expression) (hc : e.openChildren[i]? = some c) :
    (e.withChildren (e.children.set i new)).ownChildren = e.ownChildren.set i new := by
  cases e with
  | filter source predicate =>
    cases i with
    | zero => rfl
    | succ i => simp [openChildren] at hc
  | lambda param body => cases hc
  | index | binary =>
    rcases i with _ | _ | i <;> rfl
  | conditional =>
    rcases i with _ | _ | _ | i <;> rfl
  | member | projection | length | unary =>
    cases i <;> rfl
  | _ => rfl

theorem reaches_name_of_setAt {p : List Nat} {m : String}
    (h : e.Reaches openChildren place found)
    (hp : (setAt new place e).Reaches ownChildren p (name m)) :
    (∃ r, p = place ++ r ∧ new.Reaches ownChildren r (name m)) ∨
      e.Reaches ownChildren p (name m) := by
  induction h generalizing p with
  | here e => exact .inl ⟨p, rfl, hp⟩
  | @child e c found i place hc _ ih =>
    have hown := getElem?_ownChildren_of_open hc
    obtain ⟨hi, -⟩ := List.getElem?_eq_some_iff.mp hown
    rw [setAt_child (getElem?_children_of_open hc)] at hp
    have hchildren := ownChildren_withChildren (setAt new place c) hc
    generalize hnode : e.withChildren (e.children.set i (setAt new place c)) = node at hp hchildren
    cases hp with
    | here =>
      have hlength : (e.ownChildren.set i (setAt new place c)).length = 0 :=
        (congrArg List.length hchildren).symm
      rw [List.length_set] at hlength
      omega
    | @child _ d _ j p hd hp =>
      rw [hchildren] at hd
      by_cases hij : i = j
      · subst hij
        rw [List.getElem?_set_self hi] at hd
        obtain rfl := Option.some.inj hd
        rcases ih hp with ⟨r, rfl, hr⟩ | hp
        · exact .inl ⟨r, rfl, hr⟩
        · exact .inr (.child hown hp)
      · rw [List.getElem?_set_ne hij] at hd
        exact .inr (.child hd hp)

theorem place_of_reaches_itemRead {n m : String} {p : List Nat}
    (h : (itemRead n).Reaches ownChildren p (name m)) : p = [0] := by
  have hchildren : (itemRead n).ownChildren = [name itemName] := by
    unfold itemRead
    split <;> rfl
  generalize hread : itemRead n = read at h hchildren
  cases h with
  | here =>
    unfold itemRead at hread
    split at hread <;> cases hread
  | @child _ c _ i p hc hp =>
    rw [hchildren] at hc
    cases i with
    | succ i => simp at hc
    | zero =>
      obtain rfl : name itemName = c := by simpa using hc
      cases hp with
      | here => rfl
      | child hd _ => cases hd

theorem NoOwnItem.item_unique {p q : List Nat} (h : e.NoOwnItem)
    (hp : e.boundToItem.Reaches ownChildren p (name itemName))
    (hq : e.boundToItem.Reaches ownChildren q (name itemName)) : p = q := by
  rcases boundToItem_cases e with ⟨place, n, hlead, he⟩ | ⟨-, he⟩
  · have hplace : ∀ p, e.boundToItem.Reaches ownChildren p (name itemName) → p = place ++ [0] := by
      intro p hp
      rw [he] at hp
      rcases reaches_name_of_setAt hlead.found hp with ⟨r, rfl, hr⟩ | hown
      · rw [place_of_reaches_itemRead hr]
      · exact absurd hown (h p)
    rw [hplace p hp, hplace q hq]
  · rw [he] at hp
    exact absurd hp (h p)

theorem NoOwnItem.leadingName_ne {n : String} (h : e.NoOwnItem) (hlead : e.LeadingName place n) :
    n ≠ itemName := by
  rintro rfl
  exact h place (hlead.found.mono fun _ _ _ hc => getElem?_ownChildren_of_open hc)

/-- The place lies in the predicate of a bracket filter. -/
def InPredicate (e : Expression) (place : List Nat) : Prop :=
  ∃ above below source predicate, place = above ++ 1 :: below ∧
    e.Reaches children above (filter source predicate)

theorem reaches_own_or_inPredicate (h : e.Reaches children place found) :
    e.Reaches ownChildren place found ∨ e.InPredicate place := by
  induction h with
  | here e => exact .inl (.here e)
  | @child e c found i place hc _ ih =>
    have hstep : e.ownChildren[i]? = some c ∨ ∃ source, i = 1 ∧ e = filter source c := by
      cases e with
      | filter source predicate =>
        rcases i with _ | _ | i
        · exact .inl hc
        · obtain rfl : predicate = c := by simpa [children] using hc
          exact .inr ⟨source, rfl, rfl⟩
        · simp [children] at hc
      | _ => exact .inl hc
    rcases hstep with hown | ⟨source, rfl, rfl⟩
    · rcases ih with h | ⟨above, below, source, predicate, rfl, h⟩
      · exact .inl (.child hown h)
      · exact .inr ⟨i :: above, below, source, predicate, rfl, .child hc h⟩
    · exact .inr ⟨[], place, source, c, rfl, .here _⟩

end

section

variable {e : Expression} {bound : List String} {n : String}

theorem mem_freeNamesAll {es : List Expression} :
    n ∈ freeNamesAll bound es ↔ ∃ e ∈ es, n ∈ freeNames bound e := by
  induction es with
  | nil => simp [freeNamesAll]
  | cons e es ih => simp [freeNamesAll, ih]

/-- A free name is free in some child, where more names may be bound. -/
theorem mem_freeNames_cases (h : n ∈ freeNames bound e) :
    e = name n ∧ n ∉ bound ∨ ∃ (i : Nat) (c : Expression) (bound' : List String),
      e.children[i]? = some c ∧ n ∈ freeNames bound' c ∧ bound ⊆ bound' ∧
        (itemName ∈ bound' ∨ e.ownChildren[i]? = some c) := by
  have hself : bound ⊆ bound := fun _ h => h
  cases e with
  | literal v => cases h
  | name m =>
    by_cases hm : m ∈ bound
    · simp [freeNames, hm] at h
    · obtain rfl : n = m := by simpa [freeNames, hm] using h
      exact .inl ⟨rfl, hm⟩
  | array items | call _ items =>
    obtain ⟨c, hmem, hc⟩ := mem_freeNamesAll.mp h
    obtain ⟨i, hi⟩ := List.getElem?_of_mem hmem
    exact .inr ⟨i, c, bound, hi, hc, hself, .inr hi⟩
  | member a | projection a | length a | unary _ a =>
    exact .inr ⟨0, a, bound, rfl, h, hself, .inr rfl⟩
  | lambda param body =>
    exact .inr ⟨0, body, param :: bound, rfl, h, fun _ h => .tail _ h, .inr rfl⟩
  | filter source predicate =>
    rcases List.mem_append.mp h with h | h
    · exact .inr ⟨0, source, bound, rfl, h, hself, .inr rfl⟩
    · exact .inr ⟨1, predicate, itemName :: bound, rfl, h, fun _ h => .tail _ h,
        .inl List.mem_cons_self⟩
  | index a b | binary _ a b =>
    rcases List.mem_append.mp h with h | h
    · exact .inr ⟨0, a, bound, rfl, h, hself, .inr rfl⟩
    · exact .inr ⟨1, b, bound, rfl, h, hself, .inr rfl⟩
  | conditional a b c =>
    simp only [freeNames, List.mem_append] at h
    rcases h with (h | h) | h
    · exact .inr ⟨0, a, bound, rfl, h, hself, .inr rfl⟩
    · exact .inr ⟨1, b, bound, rfl, h, hself, .inr rfl⟩
    · exact .inr ⟨2, c, bound, rfl, h, hself, .inr rfl⟩

theorem notMem_bound_of_mem_freeNames (h : n ∈ freeNames bound e) : n ∉ bound := by
  induction e using induction_on_children generalizing bound with
  | step e ih =>
    rcases mem_freeNames_cases h with ⟨-, hn⟩ | ⟨i, c, bound', hc, hfree, hsub, -⟩
    · exact hn
    · exact fun hn => ih c (List.mem_of_getElem? hc) hfree (hsub hn)

theorem NoOwnItem.notMem_freeNames (h : e.NoOwnItem) : itemName ∉ freeNames bound e := by
  induction e using induction_on_children generalizing bound with
  | step e ih =>
    intro hfree
    rcases mem_freeNames_cases hfree with ⟨rfl, -⟩ | ⟨i, c, bound', hc, hfree, -, hitem | hown⟩
    · exact h [] (.here _)
    · exact notMem_bound_of_mem_freeNames hfree hitem
    · exact ih c (List.mem_of_getElem? hc) (fun place hp => h (i :: place) (.child hown hp)) hfree

end

/-- What the items of an expression keep to that has been read. -/
structure ItemsBoundOnce (e : Expression) : Prop where
  inPredicate : ∀ place, e.Reaches children place (name itemName) → e.InPredicate place
  own_unique : ∀ place source predicate, e.Reaches children place (filter source predicate) →
    ∀ p q, predicate.Reaches ownChildren p (name itemName) →
      predicate.Reaches ownChildren q (name itemName) → p = q
  /-- The name that was bound in a predicate had not been bound before. -/
  bound_once : ∀ place source predicate, e.Reaches children place (filter source predicate) →
    ∃ read : Expression, predicate = read.boundToItem ∧
      ∀ p n, read.LeadingName p n → n ≠ itemName
  params : ∀ place param body, e.Reaches children place (lambda param body) → param ≠ itemName
  fields : itemName ∉ e.referencedFields

theorem Hygienic.itemsBoundOnce {e : Expression} (h : e.Hygienic) : e.ItemsBoundOnce where
  inPredicate place hplace := by
    rcases reaches_own_or_inPredicate hplace with hown | hin
    · exact absurd hown (h.noOwnItem place)
    · exact hin
  own_unique place source predicate hfilter p q hp hq := by
    obtain ⟨read, hread, rfl⟩ := h.wellBound place _ hfilter
    exact hread.item_unique hp hq
  bound_once place source predicate hfilter := by
    obtain ⟨read, hread, rfl⟩ := h.wellBound place _ hfilter
    exact ⟨read, rfl, fun p n hlead => hread.leadingName_ne hlead⟩
  params place param body hlambda := h.wellBound place _ hlambda
  fields hmem := h.noOwnItem.notMem_freeNames (mem_referencedFields.mp hmem)

end Expression

namespace Grammar

open Expression

/-- No token is the name of the item. -/
def ItemFree (ts : List Token) : Prop :=
  ∀ token ∈ ts, token.kind ≠ .name itemName

theorem ItemFree.tail {token : Token} {ts : List Token} (h : ItemFree (token :: ts)) :
    ItemFree ts :=
  fun other hmem => h other (.tail _ hmem)

theorem LiteralIndex.itemFree {ts rest : List Token} {v : Value} (h : LiteralIndex ts v rest)
    (hts : ItemFree ts) : ItemFree rest := by
  cases h with
  | number => exact hts.tail.tail
  | text => exact hts.tail.tail
  | negated => exact hts.tail.tail.tail

theorem hygienic_literal (v : Value) : (literal v).Hygienic :=
  .of_children (by simp) trivial (by simp [children])

theorem hygienic_items {es : List Expression} :
    (array es).Hygienic ↔ ∀ e ∈ es, e.Hygienic := by
  constructor
  · intro h e he
    obtain ⟨i, hi⟩ := List.getElem?_of_mem he
    exact h.child hi
  · exact fun h => .of_children (by simp) trivial h

theorem Derives.hygienic {phrase : Phrase} {ts rest : List Token} {e : Expression} {k m : Nat}
    (h : Derives phrase ts rest e k m) (hts : ItemFree ts) : e.Hygienic ∧ ItemFree rest := by
  induction h with
  | plain _ ih | single _ ih | tighter _ ih | unsigned _ ih | bare _ ih | nonempty _ ih =>
    exact ih hts
  | conditional _ _ _ iha ihb ihc =>
    obtain ⟨ha, hus⟩ := iha hts
    obtain ⟨hb, hvs⟩ := ihb hus.tail
    obtain ⟨hc, hrest⟩ := ihc hvs.tail
    exact ⟨.of_children (by simp) trivial (by simp [children, ha, hb, hc]), hrest⟩
  | operation _ _ _ iha ihb =>
    obtain ⟨ha, hus⟩ := iha hts
    obtain ⟨hb, hrest⟩ := ihb hus.tail
    exact ⟨.of_children (by simp) trivial (by simp [children, ha, hb]), hrest⟩
  | signed _ _ ih =>
    obtain ⟨ha, hrest⟩ := ih hts.tail
    exact ⟨.of_children (by simp) trivial (by simp [children, ha]), hrest⟩
  | length _ ih | member _ _ ih =>
    obtain ⟨ha, hus⟩ := ih hts
    exact ⟨.of_children (by simp) trivial (by simp [children, ha]), hus.tail.tail⟩
  | projection _ ih =>
    obtain ⟨ha, hus⟩ := ih hts
    exact ⟨.of_children (by simp) trivial (by simp [children, ha]), hus.tail.tail.tail.tail⟩
  | index _ literal ih =>
    obtain ⟨ha, hus⟩ := ih hts
    exact ⟨.of_children (by simp) trivial (by simp [children, ha, hygienic_literal]),
      literal.itemFree hus.tail⟩
  | filter _ _ _ iha ihb =>
    obtain ⟨ha, hus⟩ := iha hts
    obtain ⟨hb, hrest⟩ := ihb hus.tail
    exact ⟨ha.filter hb, hrest.tail⟩
  | call _ _ _ iha ihargs =>
    obtain ⟨-, hus⟩ := iha hts
    obtain ⟨hargs, hrest⟩ := ihargs hus.tail
    exact ⟨.of_children (by simp) trivial (hygienic_items.mp hargs), hrest⟩
  | number | text | keyword => exact ⟨hygienic_literal _, hts.tail⟩
  | name =>
    have hname := hts _ List.mem_cons_self
    exact ⟨.of_children (by simpa using hname) trivial (by simp [children]), hts.tail⟩
  | lambda _ _ _ ih =>
    have hname := hts _ List.mem_cons_self
    obtain ⟨ha, hrest⟩ := ih hts.tail.tail
    exact ⟨.of_children (by simp) (by simpa [WellBound] using hname) (by simp [children, ha]),
      hrest⟩
  | group _ ih =>
    obtain ⟨ha, hrest⟩ := ih hts.tail
    exact ⟨ha, hrest.tail⟩
  | array _ ih => exact ih hts.tail
  | empty => exact ⟨hygienic_items.mpr (by simp), hts.tail⟩
  | last _ ih =>
    obtain ⟨ha, hrest⟩ := ih hts
    exact ⟨hygienic_items.mpr (by simpa using ha), hrest.tail⟩
  | more _ _ iha ihes =>
    obtain ⟨ha, hus⟩ := iha hts
    obtain ⟨hes, hrest⟩ := ihes hus.tail
    exact ⟨hygienic_items.mpr (by simpa [ha] using hygienic_items.mp hes), hrest⟩

theorem mem_scan {position : Nat} {cs : List Char} {tokens : List Token}
    (h : Token.scan position cs = .ok tokens) {token : Token} (hmem : token ∈ tokens) :
    token.kind = .finish ∨ ∃ p c rest text, Token.lexeme p c rest = .ok (token.kind, text) := by
  induction position, cs using Token.scan.induct generalizing tokens with
  | case1 position =>
    rw [Token.scan_nil] at h
    cases h
    exact .inl (by simp_all)
  | case2 position c rest hblank ih =>
    rw [Token.scan_blank hblank] at h
    exact ih h hmem
  | case3 position c rest hblank kind text hlexeme ih =>
    rw [Token.scan_of_ok hblank hlexeme] at h
    obtain ⟨ts, hts, rfl⟩ := Outcome.map_eq_ok_iff.mp h
    rcases List.mem_cons.mp hmem with rfl | hmem
    · exact .inr ⟨_, _, _, _, hlexeme⟩
    · exact ih hts hmem
  | case4 position c rest hblank e hlexeme =>
    rw [Token.scan_of_error hblank hlexeme] at h
    cases h

theorem isNamePart_of_scan {position p : Nat} {cs : List Char} {tokens : List Token} {n : String}
    (h : Token.scan position cs = .ok tokens) (hmem : ⟨.name n, p⟩ ∈ tokens) {c : Char}
    (hc : c ∈ n.toList) : Token.isNamePart c = true := by
  rcases mem_scan h hmem with hfinish | ⟨q, d, rest, text, hlexeme⟩
  · cases hfinish
  · have hscanned := Token.scanned_lexeme q d rest
    rw [hlexeme] at hscanned
    cases hscanned with
    | token hfront =>
      have hname := hfront.lexeme
      generalize hkind : TokenKind.name n = kind at hname
      cases hname with
      | name hname =>
        obtain rfl := TokenKind.name.inj hkind
        rw [String.toList_ofList] at hc
        exact hname.isNamePart hc
      | _ => cases hkind

theorem itemFree_ofText {source : String} {tokens : List Token}
    (h : Token.ofText source = .ok tokens) : ItemFree tokens := by
  rintro ⟨kind, p⟩ hmem hname
  obtain rfl : kind = .name itemName := hname
  have hat : Token.isNamePart '@' = true := isNamePart_of_scan h hmem (by decide)
  exact absurd hat (by decide)

end Grammar

theorem Formula.hygienic_of_parse {source : String} {f : Formula} (h : parse source = .ok f) :
    f.expression.Hygienic := by
  obtain ⟨e, he, rfl⟩ := Outcome.map_eq_ok_iff.mp h
  obtain ⟨-, -, tokens, levels, htokens, ⟨k, p, hderives⟩, -, -⟩ :=
    Grammar.parseExpression_eq_ok_iff.mp he
  exact (hderives.hygienic (Grammar.itemFree_ofText htokens)).1

end Stagewise
