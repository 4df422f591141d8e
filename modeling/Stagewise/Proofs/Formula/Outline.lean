import Mathlib.Data.List.Forall2
import Mathlib.Data.List.Nodup
import Stagewise.Proofs.Formula.Legible

/-! A drawn tree can be read back. It has a line for each node, whose margin tells the level and whose
label tells what the node holds itself. A node's children are those that come after it, one level
further in, up to a node of its own level or of one further out, so the lines determine the
expression, but for numbers that are shown by the same text. -/

namespace Stagewise

namespace Expression

mutual

/-- The nodes from the top down and from left to right, each with the number of nodes above it. -/
def preorder (level : Nat) (e : Expression) : List (Nat × Expression) :=
  (level, e) ::
    match e with
    | literal _ | name _ => []
    | array items => preorderAll (level + 1) items
    | call _ args => preorderAll (level + 1) args
    | member a _ | projection a _ | length a | unary _ a | lambda _ a => preorder (level + 1) a
    | index a b | filter a b | binary _ a b => preorder (level + 1) a ++ preorder (level + 1) b
    | conditional a b c =>
      preorder (level + 1) a ++ preorder (level + 1) b ++ preorder (level + 1) c

def preorderAll (level : Nat) : List Expression → List (Nat × Expression)
  | [] => []
  | e :: es => preorder level e ++ preorderAll level es

end

theorem preorder_eq (level : Nat) (e : Expression) :
    e.preorder level = (level, e) :: preorderAll (level + 1) e.children := by
  cases e <;> simp [preorder, preorderAll, children]

theorem treeLines_eq (margin : String) (last : Bool) (e : Expression) :
    e.treeLines margin last =
      (margin ++ branch last ++ e.label) :: childLines (indent margin last) e.children := by
  cases e <;> simp [treeLines, childLines, children]

/-- The same expression, but for numbers that are shown by the same text. -/
inductive SameButNumbers : Expression → Expression → Prop where
  | number {x y : Float} (h : Value.numberText x = Value.numberText y) :
    SameButNumbers (literal (.number x)) (literal (.number y))
  | node (e : Expression) {es : List Expression} (h : List.Forall₂ SameButNumbers e.children es) :
    SameButNumbers e (e.withChildren es)

/-- A margin of so many levels, four columns for each. -/
structure Margin (level : Nat) (margin : String) : Prop where
  columns : margin.length = 4 * level
  only : ∀ c ∈ margin.toList, c = ' ' ∨ c = '│'

/-- The line draws the node at its level. -/
def Draws (node : Nat × Expression) (line : String) : Prop :=
  ∃ margin last, Margin node.1 margin ∧ line = margin ++ branch last ++ node.2.label

section

variable {e e' : Expression} {level : Nat} {margin : String} {last : Bool}

theorem Margin.none : Margin 0 "" :=
  ⟨rfl, nofun⟩

theorem Margin.indent (h : Margin level margin) : Margin (level + 1) (indent margin last) where
  columns := by
    have hstep : (if last then "    " else "│   ").length = 4 := by cases last <;> rfl
    rw [Expression.indent, String.length_append, h.columns, hstep]
    omega
  only c hc := by
    have hstep : ∀ c ∈ (if last then "    " else "│   ").toList, c = ' ' ∨ c = '│' := by
      cases last <;> simp
    rw [Expression.indent, String.toList_append] at hc
    exact (List.mem_append.mp hc).elim (h.only c) (hstep c)

theorem childLines_draws {es : List Expression}
    (h : ∀ c ∈ es, ∀ last, List.Forall₂ Draws (c.preorder level) (c.treeLines margin last)) :
    List.Forall₂ Draws (preorderAll level es) (childLines margin es) := by
  induction es with
  | nil => exact .nil
  | cons c es ih =>
    rw [preorderAll, childLines]
    exact List.rel_append (h c List.mem_cons_self _) (ih fun d hd => h d (.tail _ hd))

/-- The lines of a tree draw its nodes in order. -/
theorem treeLines_draws (h : Margin level margin) :
    List.Forall₂ Draws (e.preorder level) (e.treeLines margin last) := by
  induction e using induction_on_children generalizing level margin last with
  | step e ih =>
    rw [preorder_eq, treeLines_eq]
    exact .cons ⟨margin, last, h, rfl⟩ (childLines_draws fun c hc last => ih c hc h.indent)

theorem length_preorderAll {es : List Expression}
    (h : ∀ c ∈ es, (c.preorder level).length = c.size) :
    (preorderAll level es).length = sizeAll es := by
  induction es with
  | nil => rfl
  | cons c es ih =>
    rw [preorderAll, List.length_append, h c List.mem_cons_self, ih fun d hd => h d (.tail _ hd),
      sizeAll]

theorem length_preorder (e : Expression) (level : Nat) : (e.preorder level).length = e.size := by
  induction e using induction_on_children generalizing level with
  | step e ih =>
    rw [preorder_eq, List.length_cons, length_preorderAll fun c hc => ih c hc _, sizeAll_children]

theorem toList_branch_append (last : Bool) (s : String) :
    ∃ c, (c = '└' ∨ c = '├') ∧ (branch last ++ s).toList = c :: '─' :: '─' :: ' ' :: s.toList := by
  cases last with
  | false => exact ⟨'├', .inr rfl, by simp [branch]⟩
  | true => exact ⟨'└', .inl rfl, by simp [branch]⟩

/-- A line tells the level and the label of its node. -/
theorem Draws.unique {p q : Nat × Expression} {line : String} (hp : Draws p line)
    (hq : Draws q line) : p.1 = q.1 ∧ p.2.label = q.2.label := by
  obtain ⟨margin, last, hm, rfl⟩ := hp
  obtain ⟨margin', last', hm', heq⟩ := hq
  obtain ⟨c, hc, hbranch⟩ := toList_branch_append last p.2.label
  obtain ⟨d, hd, hbranch'⟩ := toList_branch_append last' q.2.label
  have hblank {level : Nat} {margin : String} (h : Margin level margin) :
      ∀ a ∈ margin.toList, (a == ' ' || a == '│') = true := by
    intro a ha
    rcases h.only a ha with rfl | rfl <;> rfl
  have hchars := congrArg String.toList heq
  rw [String.append_assoc, String.append_assoc, String.toList_append, hbranch,
    String.toList_append, hbranch'] at hchars
  obtain ⟨hmargin, -, hrest⟩ := append_cons_inj (hblank hm) (hblank hm')
    (by rcases hc with rfl | rfl <;> rfl) (by rcases hd with rfl | rfl <;> rfl) hchars
  simp only [List.cons.injEq, true_and] at hrest
  have hcolumns := hm.columns
  rw [String.toList_inj.mp hmargin, hm'.columns] at hcolumns
  exact ⟨by omega, String.toList_inj.mp hrest⟩

theorem Draws.newline_notMem {p : Nat × Expression} {line : String} (h : Draws p line)
    (hp : p.2.Readable) : '\n' ∉ line.toList := by
  obtain ⟨margin, last, hm, rfl⟩ := h
  obtain ⟨c, hc, hbranch⟩ := toList_branch_append last p.2.label
  have hmargin : '\n' ∉ margin.toList := by
    intro hn
    rcases hm.only _ hn with h | h <;> exact absurd h (by decide)
  have hlabel := hp.newline_notMem_label
  rw [String.append_assoc, String.toList_append, hbranch]
  rcases hc with rfl | rfl <;> simp [hmargin, hlabel]

/-- Lines without a line break can be told apart when they are joined. -/
theorem lines_eq_of_join {ls ls' : List String} (h : ∀ line ∈ ls, '\n' ∉ line.toList)
    (h' : ∀ line ∈ ls', '\n' ∉ line.toList)
    (heq : String.join (ls.map fun line => line ++ "\n") =
      String.join (ls'.map fun line => line ++ "\n")) : ls = ls' := by
  have hcons (line : String) (ls : List String) :
      (String.join ((line :: ls).map fun line => line ++ "\n")).toList =
        line.toList ++ '\n' :: (String.join (ls.map fun line => line ++ "\n")).toList := by
    simp
  have hplain {line : String} (h : '\n' ∉ line.toList) : ∀ c ∈ line.toList, (c != '\n') = true := by
    intro c hc
    exact bne_iff_ne.mpr fun heq => h (heq ▸ hc)
  replace heq := congrArg String.toList heq
  induction ls generalizing ls' with
  | nil =>
    cases ls' with
    | nil => rfl
    | cons line' ls' =>
      rw [hcons] at heq
      exact absurd heq.symm (List.append_ne_nil_of_right_ne_nil _ (List.cons_ne_nil _ _))
  | cons line ls ih =>
    rw [hcons] at heq
    cases ls' with
    | nil => exact absurd heq (List.append_ne_nil_of_right_ne_nil _ (List.cons_ne_nil _ _))
    | cons line' ls' =>
      rw [hcons] at heq
      obtain ⟨hline, -, hrest⟩ := append_cons_inj (hplain (h line List.mem_cons_self))
        (hplain (h' line' List.mem_cons_self)) (by decide) (by decide) heq
      rw [String.toList_inj.mp hline, ih (fun l hl => h l (.tail _ hl))
        (fun l hl => h' l (.tail _ hl)) hrest]

end

/-- The first word of a label. -/
def kind : Expression → String
  | literal _ => "Literal:"
  | name _ => "Field:"
  | array _ => "Array"
  | member _ _ => "Member"
  | index _ _ => "Index"
  | projection _ _ => "Projection"
  | filter _ _ => "Filter"
  | length _ => "Length"
  | call _ _ => "Call"
  | lambda _ _ => "Lambda"
  | unary _ _ => "Unary"
  | binary _ _ _ => "Binary"
  | conditional _ _ _ => "Conditional"

/-- What follows the first word of a label. -/
def detail : Expression → String
  | literal value => value.display
  | name n => n
  | array items => "[" ++ toString items.length ++ "]"
  | member _ property => "." ++ property
  | index _ _ => "[]"
  | projection _ key => ".*." ++ key
  | filter _ _ => "[item => ...]"
  | length _ => "(null-safe)"
  | call callee _ => callee ++ "()"
  | lambda param _ => param ++ " =>"
  | unary op _ => "(" ++ op.symbol ++ ")"
  | binary op _ _ => "(" ++ op.symbol ++ ")"
  | conditional _ _ _ => "(?:)"

section

variable {e e' : Expression}

theorem toList_label (e : Expression) : e.label.toList = e.kind.toList ++ ' ' :: e.detail.toList := by
  cases e <;> simp [label, kind, detail]

theorem kind_detail_of_label (h : e.label = e'.label) : e.kind = e'.kind ∧ e.detail = e'.detail := by
  have hword (e : Expression) : ∀ c ∈ e.kind.toList, (c != ' ') = true := by
    cases e <;> simp [kind]
  have hchars := congrArg String.toList h
  rw [toList_label, toList_label] at hchars
  obtain ⟨hkind, -, hdetail⟩ := append_cons_inj (hword e) (hword e') (by decide) (by decide) hchars
  exact ⟨String.toList_inj.mp hkind, String.toList_inj.mp hdetail⟩

theorem unarySymbol_injective : Function.Injective UnaryOp.symbol := by
  intro op op' h
  cases op <;> cases op' <;> first | rfl | exact absurd h (by decide)

theorem binarySymbol_injective : Function.Injective BinaryOp.symbol := by
  let ops : List BinaryOp := [.add, .subtract, .multiply, .divide, .remainder, .equal, .notEqual,
    .same, .notSame, .greater, .atLeast, .less, .atMost, .and, .or]
  have hall (op : BinaryOp) : op ∈ ops := by cases op <;> decide
  have hdistinct : (ops.map BinaryOp.symbol).Nodup := by decide
  exact fun op op' h => List.inj_on_of_nodup_map hdistinct (hall op) (hall op') h

/-- The label tells the constructor and what it holds beside the children. -/
theorem sameButNumbers_of_label (he : e.Readable) (he' : e'.Readable) (h : e.label = e'.label)
    (hchildren : List.Forall₂ SameButNumbers e.children e'.children) : SameButNumbers e e' := by
  obtain ⟨hkind, hdetail⟩ := kind_detail_of_label h
  cases e with
  | literal v =>
    cases e' with
    | literal w =>
      cases Value.shownAlike_of_display he he' hdetail with
      | same => exact .node _ hchildren
      | number hxy => exact .number hxy
    | _ => simp [kind] at hkind
  | name n =>
    cases e' with
    | name n' =>
      obtain rfl : n = n' := hdetail
      exact .node _ hchildren
    | _ => simp [kind] at hkind
  | member object property =>
    cases e' with
    | member object' property' =>
      obtain rfl : property = property' := by simpa [detail] using hdetail
      exact .node (member object property) hchildren
    | _ => simp [kind] at hkind
  | projection source key =>
    cases e' with
    | projection source' key' =>
      obtain rfl : key = key' := by simpa [detail] using hdetail
      exact .node (projection source key) hchildren
    | _ => simp [kind] at hkind
  | call callee args =>
    cases e' with
    | call callee' args' =>
      obtain rfl : callee = callee' := by simpa [detail] using hdetail
      exact .node (call callee args) hchildren
    | _ => simp [kind] at hkind
  | lambda param body =>
    cases e' with
    | lambda param' body' =>
      obtain rfl : param = param' := by simpa [detail] using hdetail
      exact .node (lambda param body) hchildren
    | _ => simp [kind] at hkind
  | unary op operand =>
    cases e' with
    | unary op' operand' =>
      obtain rfl : op = op' := unarySymbol_injective (by simpa [detail] using hdetail)
      exact .node (unary op operand) hchildren
    | _ => simp [kind] at hkind
  | binary op left right =>
    cases e' with
    | binary op' left' right' =>
      obtain rfl : op = op' := binarySymbol_injective (by simpa [detail] using hdetail)
      exact .node (binary op left right) hchildren
    | _ => simp [kind] at hkind
  | array | index | filter | length | conditional =>
    cases e' with
    | array | index | filter | length | conditional =>
      first | exact .node _ hchildren | simp [kind] at hkind
    | _ => simp [kind] at hkind

end

/-- What a line tells of its node. -/
def told (node : Nat × Expression) : Nat × String :=
  (node.1, node.2.label)

/-- No other expression tells the same line by line, if what comes after the lines is not inside. -/
def Determined (e : Expression) : Prop :=
  ∀ e' level rest rest', e'.Legible → (∀ line ∈ rest.head?, line.1 ≤ level) →
    (∀ line ∈ rest'.head?, line.1 ≤ level) →
    (e.preorder level).map told ++ rest = (e'.preorder level).map told ++ rest' →
    SameButNumbers e e' ∧ rest = rest'

section

variable {e e' : Expression} {es es' : List Expression} {level : Nat}
  {rest rest' : List (Nat × String)}

theorem head?_preorderAll_append (hrest : ∀ line ∈ rest.head?, line.1 < level) :
    ∀ line ∈ ((preorderAll level es).map told ++ rest).head?, line.1 ≤ level := by
  cases es with
  | nil => exact fun line h => Nat.le_of_lt (hrest line h)
  | cons e es =>
    rintro line h
    rw [preorderAll, preorder_eq] at h
    obtain rfl := Option.some.inj h
    exact Nat.le_refl _

theorem forall₂_of_told (h : ∀ c ∈ es, c.Determined) (hes' : ∀ c ∈ es', c.Legible)
    (hrest : ∀ line ∈ rest.head?, line.1 < level) (hrest' : ∀ line ∈ rest'.head?, line.1 < level)
    (heq : (preorderAll level es).map told ++ rest = (preorderAll level es').map told ++ rest') :
    List.Forall₂ SameButNumbers es es' ∧ rest = rest' := by
  have hends {e : Expression} {es : List Expression} {rest rest' : List (Nat × String)}
      (hrest : ∀ line ∈ rest.head?, line.1 < level) :
      rest ≠ (preorderAll level (e :: es)).map told ++ rest' := by
    rintro rfl
    rw [preorderAll, preorder_eq] at hrest
    exact absurd (hrest _ rfl) (Nat.lt_irrefl _)
  induction es generalizing es' with
  | nil =>
    cases es' with
    | nil => exact ⟨.nil, heq⟩
    | cons c es' => exact absurd heq (hends hrest)
  | cons c es ih =>
    cases es' with
    | nil => exact absurd heq.symm (hends hrest')
    | cons c' es' =>
      rw [preorderAll, preorderAll, List.map_append, List.map_append, List.append_assoc,
        List.append_assoc] at heq
      obtain ⟨hc, hmore⟩ := h c List.mem_cons_self c' level _ _ (hes' c' List.mem_cons_self)
        (head?_preorderAll_append hrest) (head?_preorderAll_append hrest') heq
      obtain ⟨hes, hrest⟩ := ih (fun d hd => h d (.tail _ hd)) (fun d hd => hes' d (.tail _ hd)) hmore
      exact ⟨.cons hc hes, hrest⟩

theorem Legible.determined (he : e.Legible) : e.Determined := by
  induction e using induction_on_children with
  | step e ih =>
    intro e' level rest rest' he' hrest hrest' heq
    rw [preorder_eq, preorder_eq] at heq
    simp only [List.map_cons, List.cons_append, List.cons.injEq, told, Prod.mk.injEq,
      true_and] at heq
    obtain ⟨hlabel, hbelow⟩ := heq
    obtain ⟨hchildren, hafter⟩ := forall₂_of_told (fun c hc => ih c hc (he.child hc))
      (fun c hc => he'.child hc) (fun line h => Nat.lt_succ_of_le (hrest line h))
      (fun line h => Nat.lt_succ_of_le (hrest' line h)) hbelow
    exact ⟨sameButNumbers_of_label he.readable he'.readable hlabel hchildren, hafter⟩

theorem label_withChildren (h : es.length = e.children.length) :
    (e.withChildren es).label = e.label := by
  cases e with
  | literal | name | call => rfl
  | array items =>
    have hlength : es.length = items.length := h
    rw [withChildren, label, label, hlength]
  | member | projection | length | unary | lambda =>
    obtain ⟨a, rfl⟩ := List.length_eq_one_iff.mp h
    rfl
  | index | filter | binary =>
    obtain ⟨a, b, rfl⟩ := List.length_eq_two.mp h
    rfl
  | conditional =>
    obtain ⟨a, b, c, rfl⟩ := List.length_eq_three.mp h
    rfl

theorem childLines_congr {margin : String} (hes : List.Forall₂ SameButNumbers es es')
    (h : ∀ c ∈ es, ∀ c', SameButNumbers c c' → ∀ last, c.treeLines margin last =
      c'.treeLines margin last) : childLines margin es = childLines margin es' := by
  induction hes with
  | nil => rfl
  | @cons c c' es es' hc hes ih =>
    have hempty : es.isEmpty = es'.isEmpty := by cases hes <;> rfl
    rw [childLines, childLines, h c List.mem_cons_self c' hc, hempty,
      ih fun d hd => h d (.tail _ hd)]

theorem SameButNumbers.treeLines_eq (h : SameButNumbers e e') (margin : String) (last : Bool) :
    e.treeLines margin last = e'.treeLines margin last := by
  induction e using induction_on_children generalizing e' margin last with
  | step e ih =>
    cases h with
    | number h => simp only [Expression.treeLines_eq, label, Value.display, h, children]
    | @node _ es h =>
      have hlength := h.length_eq.symm
      rw [Expression.treeLines_eq, Expression.treeLines_eq, label_withChildren hlength,
        children_withChildren hlength]
      exact congrArg _ (childLines_congr h fun c hc c' hcc' last => ih c hc hcc' _ last)

theorem map_told_eq {ps qs : List (Nat × Expression)} {lines : List String}
    (hp : List.Forall₂ Draws ps lines) (hq : List.Forall₂ Draws qs lines) :
    ps.map told = qs.map told := by
  induction hp generalizing qs with
  | nil =>
    cases hq
    rfl
  | cons hline _ ih =>
    cases hq with
    | cons hline' hq =>
      obtain ⟨hlevel, hlabel⟩ := hline.unique hline'
      rw [List.map_cons, List.map_cons, ih hq, told, told, hlevel, hlabel]

/-- Two legible trees have the same lines just when they are the same but for such numbers. -/
theorem Legible.treeLines_eq_iff (he : e.Legible) (he' : e'.Legible) :
    e.treeLines "" true = e'.treeLines "" true ↔ SameButNumbers e e' := by
  refine ⟨fun h => ?_, fun h => h.treeLines_eq "" true⟩
  have hdraws : List.Forall₂ Draws (e.preorder 0) (e'.treeLines "" true) :=
    h ▸ treeLines_draws .none
  have htold := map_told_eq hdraws (treeLines_draws .none)
  exact (he.determined e' 0 [] [] he' nofun nofun (by rw [htold])).1

theorem preorderAll_eq_flatMap (level : Nat) (es : List Expression) :
    preorderAll level es = es.flatMap (preorder level) := by
  induction es with
  | nil => rfl
  | cons e es ih => rw [preorderAll, ih, List.flatMap_cons]

theorem Legible.readable_of_mem_preorder (he : e.Legible) {p : Nat × Expression}
    (hp : p ∈ e.preorder level) : p.2.Readable := by
  induction e using induction_on_children generalizing level with
  | step e ih =>
    rw [preorder_eq, preorderAll_eq_flatMap] at hp
    rcases List.mem_cons.mp hp with rfl | hp
    · exact he.readable
    · obtain ⟨c, hc, hp⟩ := List.mem_flatMap.mp hp
      exact ih c hc (he.child hc) hp

theorem newline_notMem_of_draws {ps : List (Nat × Expression)} {lines : List String}
    (h : List.Forall₂ Draws ps lines) (hps : ∀ p ∈ ps, p.2.Readable) :
    ∀ line ∈ lines, '\n' ∉ line.toList := by
  induction h with
  | nil => exact nofun
  | cons hline _ ih =>
    obtain ⟨hp, hps⟩ := List.forall_mem_cons.mp hps
    exact List.forall_mem_cons.mpr ⟨hline.newline_notMem hp, ih hps⟩

theorem Legible.newline_notMem_treeLines (he : e.Legible) :
    ∀ line ∈ e.treeLines "" true, '\n' ∉ line.toList :=
  newline_notMem_of_draws (treeLines_draws .none) fun _ => he.readable_of_mem_preorder

theorem Legible.tree_eq_iff (he : e.Legible) (he' : e'.Legible) :
    e.tree = e'.tree ↔ SameButNumbers e e' := by
  rw [← he.treeLines_eq_iff he']
  exact ⟨lines_eq_of_join he.newline_notMem_treeLines he'.newline_notMem_treeLines,
    fun h => by rw [tree, tree, h]⟩

end

end Expression

open Expression

/-- The tree that is drawn of a formula has a line for each node, in order and four columns further in
for each level. Two formulas have the same tree just when they are the same but for numbers that
are shown by the same text. -/
theorem tree_shows_expression :
    (∀ source f, Formula.parse source = .ok f → ∃ lines,
      f.expression.tree = String.join (lines.map fun line => line ++ "\n") ∧
      (∀ line ∈ lines, '\n' ∉ line.toList) ∧ lines.length = f.expression.size ∧
      List.Forall₂ Draws (f.expression.preorder 0) lines) ∧
    ∀ source source' f f', Formula.parse source = .ok f → Formula.parse source' = .ok f' →
      (f.expression.tree = f'.expression.tree ↔ SameButNumbers f.expression f'.expression) := by
  refine ⟨fun source f hf => ?_, fun source source' f f' hf hf' => ?_⟩
  · have he := Formula.legible_of_parse hf
    have hdraws : List.Forall₂ Draws (f.expression.preorder 0) (f.expression.treeLines "" true) :=
      treeLines_draws .none
    exact ⟨_, rfl, he.newline_notMem_treeLines, hdraws.length_eq.symm.trans (length_preorder _ 0),
      hdraws⟩
  · exact (Formula.legible_of_parse hf).tree_eq_iff (Formula.legible_of_parse hf')

/-- A formula, and another one with other blanks, quotes and digits and with a minus zero. -/
theorem tree_shows_index :
    ∃ f f' lines, Formula.parse "a[b>1][0]?0.5:\"x\"" = .ok f ∧
      Formula.parse "a [b > 1.0] [-0] ? 0.50 : 'x'" = .ok f' ∧
      lines.length = f.expression.size ∧ List.Forall₂ Draws (f.expression.preorder 0) lines ∧
      f.expression.tree = f'.expression.tree ∧ SameButNumbers f.expression f'.expression := by
  have hread : ∃ tree,
      ((Formula.parse "a[b>1][0]?0.5:\"x\"").toOption.map fun f => f.expression.tree) = some tree ∧
      ((Formula.parse "a [b > 1.0] [-0] ? 0.50 : 'x'").toOption.map fun f => f.expression.tree) =
        some tree := by
    refine ⟨"└── Conditional (?:)\n" ++ "    ├── Index []\n" ++
      "    │   ├── Filter [item => ...]\n" ++ "    │   │   ├── Field: a\n" ++
      "    │   │   └── Binary (>)\n" ++ "    │   │       ├── Member .b\n" ++
      "    │   │       │   └── Field: @item\n" ++ "    │   │       └── Literal: 1\n" ++
      "    │   └── Literal: 0\n" ++ "    ├── Literal: 0.5\n" ++ "    └── Literal: \"x\"\n", ?_, ?_⟩ <;>
      decide +kernel
  obtain ⟨tree, hread, hread'⟩ := hread
  obtain ⟨f, hf, htree⟩ := Option.map_eq_some_iff.mp hread
  obtain ⟨f', hf', htree'⟩ := Option.map_eq_some_iff.mp hread'
  have hf := Outcome.toOption_eq_some_iff.mp hf
  have hf' := Outcome.toOption_eq_some_iff.mp hf'
  have hsame : f.expression.tree = f'.expression.tree := htree.trans htree'.symm
  obtain ⟨lines, -, -, hlength, hdraws⟩ := tree_shows_expression.1 _ f hf
  exact ⟨f, f', lines, hf, hf', hlength, hdraws, hsame,
    (tree_shows_expression.2 _ _ f f' hf hf').mp hsame⟩

end Stagewise
