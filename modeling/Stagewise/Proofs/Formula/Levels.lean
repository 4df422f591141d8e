import Stagewise.Proofs.Formula.FilterItem

/-! Two measures of an expression. Its height is what the walk over the tree finds. Its levels are
those that a text without groups has in use while it is read: beside the nested expressions that
are open, the operators and the suffixes so far of every chain that has not ended. What stands left
of a right operand or before an argument is not above it in the tree, so either measure may be the
greater one. -/

namespace Stagewise

namespace Expression

/-! ### The height -/

theorem height_eq_heightAll (e : Expression) : e.height = heightAll e.children + 1 := by
  cases e <;> simp [height, heightAll, children]

/-- The last level at which one of the pending trees ends. -/
def ends : List (Expression × Nat) → Nat
  | [] => 0
  | (e, level) :: rest => max (level + e.height) (ends rest)

theorem ends_append (ps qs : List (Expression × Nat)) :
    ends (ps ++ qs) = max (ends ps) (ends qs) := by
  induction ps with
  | nil => simp [ends]
  | cons p ps ih => simp only [List.cons_append, ends, ih, Nat.max_assoc]

theorem max_ends_map (level : Nat) (es : List Expression) :
    max level (ends (es.map fun e => (e, level))) = level + heightAll es := by
  induction es with
  | nil => simp [ends, heightAll]
  | cons e es ih =>
    simp only [List.map_cons, ends, heightAll]
    omega

/-- The end of a tree is where its highest child ends, or at the node itself when there is none. -/
theorem deepest_eq_ends (pending : List (Expression × Nat)) (best : Nat) :
    deepest pending best + 1 = max (best + 1) (ends pending) := by
  induction pending, best using deepest.induct with
  | case1 best => simp [deepest, ends]
  | case2 best e level rest ih =>
    have hroot := max_ends_map (level + 1) e.children
    have hheight := e.height_eq_heightAll
    rw [deepest, ih, ends_append, ends]
    omega

theorem depth_eq_height (e : Expression) : e.depth = e.height := by
  have h := deepest_eq_ends [(e, 1)] 0
  simp only [ends] at h
  unfold depth
  omega

/-! ### The levels -/

/-- The members of a dotted name. -/
def dots (path : String) : Nat :=
  path.toList.count '.'

def isItem : Expression → Bool
  | name n => n = itemName
  | _ => false

/-- The operators of a chain that are still open at its end. -/
def openOperators : Expression → Nat
  | binary _ left _ => left.openOperators + 1
  | _ => 0

/-- The suffixes of an operand, with those of the name that is called. A name that is read from the
item has been written without a suffix. -/
def suffixes : Expression → Nat
  | member object _ | length object => if object.isItem then 0 else object.suffixes + 1
  | projection source _ | index source _ | filter source _ => source.suffixes + 1
  | call callee _ => dots callee + 1
  | _ => 0

mutual

/-- The most levels in use at one time beside the one of the expression itself. A right operand is
read with the operators before it open, and a predicate or an argument with the suffixes before it
and its own. -/
def inside : Expression → Nat
  | literal _ | name _ => 0
  | array items => insideAll items
  | member object _ | length object =>
    if object.isItem then 0 else max object.inside (object.suffixes + 1)
  | projection source _ | index source _ => max source.inside (source.suffixes + 1)
  | filter source predicate =>
    max source.inside (source.suffixes + 1 + (predicate.inside + 1))
  | call callee args => dots callee + 1 + insideAll args
  | lambda _ body => body.inside + 1
  | unary _ operand => operand.inside + 1
  | binary _ left right => max left.inside (left.openOperators + 1 + right.inside)
  | conditional test consequent alternate =>
    max test.inside (max (consequent.inside + 1) (alternate.inside + 1))

def insideAll : List Expression → Nat
  | [] => 0
  | e :: es => max (e.inside + 1) (insideAll es)

end

def levels (e : Expression) : Nat :=
  e.inside + 1

/-- Nothing around the two expressions sees a difference of levels. -/
structure SameLevels (e e' : Expression) : Prop where
  isItem : e'.isItem = e.isItem
  openOperators : e'.openOperators = e.openOperators
  suffixes : e'.suffixes = e.suffixes
  inside : e'.inside = e.inside

namespace SameLevels

variable {e c c' : Expression} {i : Nat}

theorem refl (e : Expression) : SameLevels e e :=
  ⟨rfl, rfl, rfl, rfl⟩

theorem levels {e' : Expression} (h : SameLevels e e') : e'.levels = e.levels :=
  congrArg (· + 1) h.inside

theorem insideAll_set {es : List Expression} (h : SameLevels c c') (hc : es[i]? = some c) :
    insideAll (es.set i c') = insideAll es := by
  induction es generalizing i with
  | nil => rfl
  | cons e es ih =>
    cases i with
    | zero =>
      obtain rfl : e = c := by simpa using hc
      simp only [List.set_cons_zero, insideAll, h.inside]
    | succ i => simp only [List.set_cons_succ, insideAll, ih (by simpa using hc)]

theorem withChildren (h : SameLevels c c') (hc : e.children[i]? = some c) :
    SameLevels e (e.withChildren (e.children.set i c')) := by
  cases e with
  | literal | name => cases hc
  | array items | call callee items =>
    have hitems : insideAll (items.set i c') = _ := h.insideAll_set hc
    refine ⟨rfl, rfl, rfl, ?_⟩
    simp only [children, Expression.withChildren, Expression.inside, hitems]
  | member | projection | length | unary | lambda =>
    cases i with
    | zero =>
      obtain rfl := Option.some.inj hc
      refine ⟨rfl, rfl, ?_, ?_⟩ <;>
        simp only [children, List.set_cons_zero, Expression.withChildren, Expression.suffixes,
          Expression.inside, h.isItem, h.suffixes, h.inside]
    | succ i => cases hc
  | index | filter | binary =>
    rcases i with _ | _ | i <;> cases hc
    all_goals
      refine ⟨rfl, ?_, ?_, ?_⟩ <;>
        simp only [children, List.set_cons_zero, List.set_cons_succ, Expression.withChildren,
          Expression.openOperators, Expression.suffixes, Expression.inside, h.openOperators,
          h.suffixes, h.inside]
  | conditional =>
    rcases i with _ | _ | _ | i <;> cases hc
    all_goals
      refine ⟨rfl, rfl, rfl, ?_⟩
      simp only [children, List.set_cons_zero, List.set_cons_succ, Expression.withChildren,
        Expression.inside, h.inside]

theorem itemRead {n : String} (hn : n ≠ itemName) : SameLevels (name n) (itemRead n) := by
  unfold Expression.itemRead
  split <;> constructor <;>
    simp [Expression.isItem, Expression.openOperators, Expression.suffixes, Expression.inside, hn]

theorem boundToItem (h : e.NoOwnItem) : SameLevels e e.boundToItem := by
  rcases boundToItem_cases e with ⟨place, n, hlead, he⟩ | ⟨-, he⟩
  · rw [he]
    have hplace := hlead.found.mono fun _ _ _ => getElem?_children_of_open
    exact hplace.setAt_congr (fun hc h => h.withChildren hc) (itemRead (h.leadingName_ne hlead))
  · rw [he]
    exact refl e

end SameLevels

end Expression

end Stagewise
