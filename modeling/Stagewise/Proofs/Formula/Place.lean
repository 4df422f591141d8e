import Stagewise.Formula.Expression

/-! Places in an expression. A place is the way down to it, at each node the number of the child
that is gone into, so one place is left of another where its numbers come first. Which children may
be gone into is left open. -/

namespace Stagewise

namespace Expression

/-- What is found at a place, when only the given children are gone into. -/
inductive Reaches (below : Expression → List Expression) :
    Expression → List Nat → Expression → Prop where
  | here (e : Expression) : Reaches below e [] e
  | child {e c found : Expression} {i : Nat} {place : List Nat} (hc : (below e)[i]? = some c)
    (h : Reaches below c place found) : Reaches below e (i :: place) found

/-- The order of places from left to right. -/
def LeftOf (place other : List Nat) : Prop :=
  List.Lex (fun i j => i < j) place other

/-- The children without the predicate of a bracket filter, which has an item of its own. -/
def ownChildren : Expression → List Expression
  | filter source _ => [source]
  | e => e.children

/-- The children without such a predicate and without the body of an arrow function. -/
def openChildren : Expression → List Expression
  | filter source _ => [source]
  | lambda _ _ => []
  | e => e.children

def withChildren : Expression → List Expression → Expression
  | array _, es => array es
  | call callee _, es => call callee es
  | member _ property, [a] => member a property
  | projection _ key, [a] => projection a key
  | length _, [a] => length a
  | unary op _, [a] => unary op a
  | lambda param _, [a] => lambda param a
  | index _ _, [a, b] => index a b
  | filter _ _, [a, b] => filter a b
  | binary op _ _, [a, b] => binary op a b
  | conditional _ _ _, [a, b, c] => conditional a b c
  | e, _ => e

/-- The expression with a new one at a place. -/
def setAt (new : Expression) : List Nat → Expression → Expression
  | [], _ => new
  | i :: place, e =>
    match e.children[i]? with
    | some c => e.withChildren (e.children.set i (setAt new place c))
    | none => e

theorem LeftOf.not_leftOf {place other : List Nat} (h : LeftOf place other) :
    ¬LeftOf other place := by
  unfold LeftOf at *
  induction h with
  | nil => rintro ⟨⟩
  | cons h ih =>
    intro h'
    cases h' with
    | rel hlt => exact absurd hlt (Nat.lt_irrefl _)
    | cons h' => exact ih h'
  | rel hlt =>
    intro h'
    cases h' with
    | rel hlt' => omega
    | cons h' => exact absurd hlt (Nat.lt_irrefl _)

namespace Reaches

variable {below below' : Expression → List Expression} {e found found' : Expression}
  {place : List Nat}

theorem unique (h : e.Reaches below place found) (h' : e.Reaches below place found') :
    found = found' := by
  induction h with
  | here e =>
    cases h'
    rfl
  | child hc _ ih =>
    cases h' with
    | child hc' h' =>
      obtain rfl := Option.some.inj (hc.symm.trans hc')
      exact ih h'

theorem mono (hb : ∀ e (i : Nat) c, (below e)[i]? = some c → (below' e)[i]? = some c)
    (h : e.Reaches below place found) : e.Reaches below' place found := by
  induction h with
  | here e => exact .here e
  | child hc _ ih => exact .child (hb _ _ _ hc) ih

end Reaches

section

variable {e c : Expression} {i : Nat}

theorem children_eq_openChildren_append (e : Expression) :
    e.children = e.openChildren ++ e.children.drop e.openChildren.length := by
  cases e <;> simp [children, openChildren]

theorem getElem?_children_of_open (h : e.openChildren[i]? = some c) : e.children[i]? = some c := by
  obtain ⟨hi, -⟩ := List.getElem?_eq_some_iff.mp h
  rw [children_eq_openChildren_append, List.getElem?_append_left hi]
  exact h

theorem getElem?_ownChildren_of_open (h : e.openChildren[i]? = some c) :
    e.ownChildren[i]? = some c := by
  cases e with
  | lambda param body => simp [openChildren] at h
  | _ => exact h

theorem getElem?_children_of_own (h : e.ownChildren[i]? = some c) : e.children[i]? = some c := by
  cases e with
  | filter source predicate =>
    cases i with
    | zero => exact h
    | succ i => simp [ownChildren] at h
  | _ => exact h

theorem children_withChildren {es : List Expression} (h : es.length = e.children.length) :
    (e.withChildren es).children = es := by
  cases e with
  | literal | name => exact (List.eq_nil_of_length_eq_zero h).symm
  | array | call => rfl
  | member | projection | length | unary | lambda =>
    obtain ⟨a, rfl⟩ := List.length_eq_one_iff.mp h
    rfl
  | index | filter | binary =>
    match es, h with
    | [a, b], _ => rfl
  | conditional =>
    match es, h with
    | [a, b, c], _ => rfl

theorem setAt_child {new : Expression} {place : List Nat} (h : e.children[i]? = some c) :
    setAt new (i :: place) e = e.withChildren (e.children.set i (setAt new place c)) := by
  simp only [setAt, h]

/-- What is kept when a child is replaced is kept when any part is. -/
theorem Reaches.setAt_congr {R : Expression → Expression → Prop}
    (hR : ∀ {e c c' : Expression} {i : Nat}, e.children[i]? = some c → R c c' →
      R e (e.withChildren (e.children.set i c')))
    {found new : Expression} {place : List Nat} (h : e.Reaches children place found)
    (hnew : R found new) : R e (setAt new place e) := by
  induction h with
  | here => exact hnew
  | child hc _ ih =>
    rw [setAt_child hc]
    exact hR hc (ih hnew)

theorem size_lt_of_mem_children (h : c ∈ e.children) : c.size < e.size := by
  have hle : ∀ es : List Expression, c ∈ es → c.size ≤ sizeAll es := by
    intro es
    induction es with
    | nil => simp
    | cons first rest ih =>
      intro hc
      simp only [sizeAll]
      rcases List.mem_cons.mp hc with rfl | hc
      · omega
      · have := ih hc
        omega
  have := hle _ h
  have := sizeAll_children e
  omega

end

theorem induction_on_children {motive : Expression → Prop}
    (step : ∀ e, (∀ c ∈ e.children, motive c) → motive e) (e : Expression) : motive e :=
  step e fun c _ => induction_on_children step c
termination_by e.size
decreasing_by exact size_lt_of_mem_children ‹_›

end Expression

end Stagewise
