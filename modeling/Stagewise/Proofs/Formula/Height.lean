import Stagewise.Formula.Tree
import Stagewise.Proofs.Formula.Levels

/-! The walk that measures the depth of an expression. Every round visits a pending node and makes its
children pending, so a walk is over after as many rounds as there are nodes, whichever node is
taken first, and the last level that it has met is the height of the tree. -/

namespace Stagewise

namespace Expression

/-- The expression stands directly below a node. -/
inductive Below : Expression → Expression → Prop where
  | item {c : Expression} {items : List Expression} (h : c ∈ items) : Below c (array items)
  | argument {c : Expression} {args : List Expression} (callee : String) (h : c ∈ args) :
    Below c (call callee args)
  | memberObject (object : Expression) (property : String) : Below object (member object property)
  | indexed (object position : Expression) : Below object (index object position)
  | position (object position : Expression) : Below position (index object position)
  | projected (source : Expression) (key : String) : Below source (projection source key)
  | filtered (source predicate : Expression) : Below source (filter source predicate)
  | predicate (source predicate : Expression) : Below predicate (filter source predicate)
  | measured (operand : Expression) : Below operand (length operand)
  | body (param : String) (body : Expression) : Below body (lambda param body)
  | operand (op : UnaryOp) (operand : Expression) : Below operand (unary op operand)
  | left (op : BinaryOp) (left right : Expression) : Below left (binary op left right)
  | right (op : BinaryOp) (left right : Expression) : Below right (binary op left right)
  | test (test consequent alternate : Expression) :
    Below test (conditional test consequent alternate)
  | consequent (test consequent alternate : Expression) :
    Below consequent (conditional test consequent alternate)
  | alternate (test consequent alternate : Expression) :
    Below alternate (conditional test consequent alternate)

/-- The nodes that a walk has still to visit, each with its level, and the last level it has met. -/
structure Walk where
  pending : List (Expression × Nat)
  last : Nat

namespace Walk

def start (e : Expression) : Walk :=
  ⟨[(e, 1)], 0⟩

/-- A pending node is visited, and its children are pending after that. Which of the pending nodes it
is, and where the children come in, is left open. -/
inductive Round : Walk → Walk → Prop where
  | visit {s t : Walk} {e : Expression} {level : Nat} {others : List (Expression × Nat)}
    (hs : s.pending.Perm ((e, level) :: others))
    (ht : t.pending.Perm ((e.children.map fun c => (c, level + 1)) ++ others))
    (hlast : t.last = max s.last level) : Round s t

inductive Rounds : Nat → Walk → Walk → Prop where
  | none (s : Walk) : Rounds 0 s s
  | more {n : Nat} {s t u : Walk} (h : Round s t) (hmore : Rounds n t u) : Rounds (n + 1) s u

end Walk

section

variable {e c found : Expression} {place : List Nat} {ps qs : List (Expression × Nat)}

theorem mem_children_iff : c ∈ e.children ↔ Below c e := by
  constructor
  · intro h
    cases e with
    | literal | name => cases h
    | array | call => constructor; exact h
    | member | projection | length | unary | lambda =>
      obtain rfl := List.mem_singleton.mp h
      constructor
    | index | filter | binary =>
      simp only [children, List.mem_cons, List.not_mem_nil, or_false] at h
      rcases h with rfl | rfl <;> constructor
    | conditional =>
      simp only [children, List.mem_cons, List.not_mem_nil, or_false] at h
      rcases h with rfl | rfl | rfl <;> constructor
  · intro h
    cases h with
    | item h | argument _ h => exact h
    | _ => simp [children]

theorem height_le_heightAll {es : List Expression} (h : c ∈ es) : c.height ≤ heightAll es := by
  induction es with
  | nil => cases h
  | cons e es ih =>
    rw [heightAll]
    rcases List.mem_cons.mp h with rfl | h
    · omega
    · have := ih h
      omega

theorem exists_height_eq_heightAll {es : List Expression} (h : es ≠ []) :
    ∃ c ∈ es, heightAll es = c.height := by
  induction es with
  | nil => exact absurd rfl h
  | cons e es ih =>
    by_cases hlt : e.height < heightAll es
    · have hes : es ≠ [] := by
        rintro rfl
        cases hlt
      obtain ⟨c, hc, he⟩ := ih hes
      exact ⟨c, .tail _ hc, by rw [heightAll, ← he]; omega⟩
    · exact ⟨e, List.mem_cons_self, by rw [heightAll]; omega⟩

theorem height_of_leaf (h : ∀ c, ¬Below c e) : e.height = 1 := by
  have hchildren : e.children = [] :=
    List.eq_nil_iff_forall_not_mem.mpr fun c hc => h c (mem_children_iff.mp hc)
  rw [height_eq_heightAll, hchildren, heightAll]

theorem height_lt_of_below (h : Below c e) : c.height < e.height := by
  rw [height_eq_heightAll e]
  exact Nat.lt_succ_of_le (height_le_heightAll (mem_children_iff.mpr h))

theorem exists_below_height_eq (h : Below c e) : ∃ d, Below d e ∧ e.height = d.height + 1 := by
  obtain ⟨d, hd, he⟩ :=
    exists_height_eq_heightAll (List.ne_nil_of_mem (mem_children_iff.mpr h))
  exact ⟨d, mem_children_iff.mp hd, by rw [height_eq_heightAll, he]⟩

theorem Reaches.length_add_height_le (h : e.Reaches children place found) :
    place.length + found.height ≤ e.height := by
  induction h with
  | here e => simp
  | child hc _ ih =>
    have := height_lt_of_below (mem_children_iff.mp (List.mem_of_getElem? hc))
    rw [List.length_cons]
    omega

theorem pendingSize_perm (h : ps.Perm qs) : pendingSize ps = pendingSize qs := by
  induction h with
  | nil => rfl
  | cons p _ ih => rw [pendingSize, pendingSize, ih]
  | swap p q ps =>
    simp only [pendingSize]
    omega
  | trans _ _ ih ih' => exact ih.trans ih'

theorem ends_perm (h : ps.Perm qs) : ends ps = ends qs := by
  induction h with
  | nil => rfl
  | cons p _ ih => rw [ends, ends, ih]
  | swap p q ps =>
    simp only [ends]
    omega
  | trans _ _ ih ih' => exact ih.trans ih'

end

namespace Walk

variable {s t : Walk} {n : Nat}

theorem Round.pendingSize (h : Round s t) :
    pendingSize s.pending = pendingSize t.pending + 1 := by
  obtain @⟨e, level, others, hs, ht, -⟩ := h
  have := sizeAll_children e
  rw [pendingSize_perm hs, pendingSize_perm ht, pendingSize_append, pendingSize_map,
    Expression.pendingSize]
  omega

/-- The level at which the walk will have ended is known all the time. -/
theorem Round.ends (h : Round s t) :
    max (t.last + 1) (ends t.pending) = max (s.last + 1) (ends s.pending) := by
  obtain @⟨e, level, others, hs, ht, hlast⟩ := h
  have hchildren := max_ends_map (level + 1) e.children
  have hheight := e.height_eq_heightAll
  rw [ends_perm hs, ends_perm ht, ends_append, Expression.ends, hlast]
  omega

theorem Rounds.pendingSize (h : Rounds n s t) :
    n + Expression.pendingSize t.pending = Expression.pendingSize s.pending := by
  induction h with
  | none s => simp
  | more h _ ih =>
    have := h.pendingSize
    omega

theorem Rounds.ends (h : Rounds n s t) :
    max (t.last + 1) (Expression.ends t.pending) = max (s.last + 1) (Expression.ends s.pending) := by
  induction h with
  | none s => rfl
  | more h _ ih => exact ih.trans h.ends

theorem exists_round (h : s.pending ≠ []) : ∃ t, Round s t := by
  obtain ⟨⟨e, level⟩, others, hs⟩ := List.exists_cons_of_ne_nil h
  exact ⟨⟨(e.children.map fun c => (c, level + 1)) ++ others, max s.last level⟩,
    .visit (.of_eq hs) (.refl _) rfl⟩

theorem rounds_deepest (pending : List (Expression × Nat)) (last : Nat) :
    Rounds (Expression.pendingSize pending) ⟨pending, last⟩ ⟨[], deepest pending last⟩ := by
  induction pending, last using deepest.induct with
  | case1 last =>
    rw [deepest]
    exact .none _
  | case2 last e level others ih =>
    have hround : Round ⟨(e, level) :: others, last⟩
        ⟨(e.children.map fun c => (c, level + 1)) ++ others, max last level⟩ :=
      .visit (.refl _) (.refl _) rfl
    have hsize := hround.pendingSize
    rw [deepest]
    exact hsize ▸ .more hround ih

theorem Rounds.last_eq {e : Expression} (h : Rounds n (start e) t) (hover : t.pending = []) :
    t.last = e.height := by
  have hends := h.ends
  simp only [start, hover, Expression.ends] at hends
  omega

theorem rounds_depth (e : Expression) : Rounds e.size (start e) ⟨[], e.depth⟩ :=
  rounds_deepest [(e, 1)] 0

end Walk

end Expression

open Expression Walk

theorem Formula.level_le_of_parse {source : String} {f : Formula} {place : List Nat}
    {found : Expression} (hf : parse source = .ok f)
    (h : f.expression.Reaches children place found) : place.length + 1 ≤ Grammar.maxDepth := by
  obtain ⟨e, he, rfl⟩ := Outcome.map_eq_ok_iff.mp hf
  obtain ⟨-, -, tokens, levels, -, -, -, hdepth⟩ := Grammar.parseExpression_eq_ok_iff.mp he
  have hheight := h.length_add_height_le
  have hfound := found.height_eq_heightAll
  rw [depth_eq_height] at hdepth
  dsimp only at hheight
  omega

/-- A walk over a tree is over after one round for each node, whatever is visited first, and the last
level that it has met is the height. The depth of a tree is found by such a walk, so in a formula no
node has a level beyond the limit. -/
theorem walk_meets_height :
    (∀ e : Expression,
      (∀ c, c ∈ e.children ↔ Below c e) ∧
      ((∀ c, ¬Below c e) → e.height = 1) ∧
      (∀ c, Below c e → c.height < e.height ∧ ∃ d, Below d e ∧ e.height = d.height + 1) ∧
      (∀ n s, Rounds n (start e) s → n + pendingSize s.pending = e.size ∧
        (s.pending = [] → s.last = e.height) ∧ (s.pending ≠ [] → ∃ t, Round s t)) ∧
      Rounds e.size (start e) ⟨[], e.depth⟩ ∧ e.depth = e.height) ∧
    ∀ source f, Formula.parse source = .ok f → ∀ place found,
      f.expression.Reaches children place found → place.length + 1 ≤ Grammar.maxDepth := by
  refine ⟨fun e => ⟨fun c => mem_children_iff, height_of_leaf, ?_, ?_, rounds_depth e,
    e.depth_eq_height⟩, fun source f hf place found => Formula.level_le_of_parse hf⟩
  · exact fun c h => ⟨height_lt_of_below h, exists_below_height_eq h⟩
  · intro n s h
    exact ⟨h.pendingSize, h.last_eq, exists_round⟩

/-- The walk over `a + !b` that visits the right operand and what is below it first. -/
theorem walk_right_first :
    let a : Expression := .name "a"
    let b : Expression := .name "b"
    let e : Expression := .binary .add a (.unary .not b)
    Rounds 4 (start e) ⟨[], 3⟩ ∧ 3 = e.height ∧
      ∃ f found, Formula.parse "a + !b" = .ok f ∧ f.expression.Reaches children [1, 0] found ∧
        [1, 0].length + 1 ≤ Grammar.maxDepth := by
  intro a b e
  have hrounds : Rounds 4 (start e) ⟨[], 3⟩ := by
    have hroot : Round (start e) ⟨[(.unary .not b, 2), (a, 2)], 1⟩ := .visit (.refl _) (.swap ..) rfl
    have hright : Round ⟨[(.unary .not b, 2), (a, 2)], 1⟩ ⟨[(b, 3), (a, 2)], 2⟩ :=
      .visit (.refl _) (.refl _) rfl
    have hb : Round ⟨[(b, 3), (a, 2)], 2⟩ ⟨[(a, 2)], 3⟩ := .visit (.refl _) (.refl _) rfl
    have ha : Round ⟨[(a, 2)], 3⟩ ⟨[], 3⟩ := .visit (.refl _) (.refl _) rfl
    exact .more hroot (.more hright (.more hb (.more ha (.none _))))
  obtain ⟨-, -, -, hwalks, -⟩ := walk_meets_height.1 e
  have hread : ((Formula.parse "a + !b").toOption.bind fun f =>
      (f.expression.children[1]?.bind fun c => c.children[0]?).map label) = some "Field: b" := by
    decide +kernel
  obtain ⟨f, hf, hread⟩ := Option.bind_eq_some_iff.mp hread
  obtain ⟨found, hfound, -⟩ := Option.map_eq_some_iff.mp hread
  obtain ⟨c, hc, hfound⟩ := Option.bind_eq_some_iff.mp hfound
  have hf := Outcome.toOption_eq_some_iff.mp hf
  have hplace : f.expression.Reaches children [1, 0] found := .child hc (.child hfound (.here _))
  exact ⟨hrounds, (hwalks 4 _ hrounds).2.1 rfl, f, found, hf, hplace,
    walk_meets_height.2 _ f hf _ found hplace⟩

end Stagewise
