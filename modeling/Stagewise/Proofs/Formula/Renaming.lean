import Stagewise.Proofs.Formula.Names

/-! The parameters of arrow functions. Under a fresh name a parameter stands for the same item, so
the tests come out as before; and whatever holds the arrow function cannot tell the two apart, since
all that is ever done with one is to test items. -/

namespace Stagewise

/-- What goes by the name `x` in the first scope goes by `y` in the second, and is there. -/
structure Scope.Moves (scope scope' : Scope) (x y : String) : Prop where
  others : ∀ n, n ≠ x → n ≠ y → scope' n = scope n
  moved : scope' y = scope x
  present : (scope x).isSome = true

namespace Scope.Moves

variable {scope scope' : Scope} {x y n : String}

theorem item (scope : Scope) (x y : String) (v : Value) :
    (scope.bind x v).Moves (scope.bind y v) x y where
  others n hx hy := by simp [Scope.bind, hx, hy]
  moved := by simp [Scope.bind]
  present := by simp [Scope.bind]

theorem bind (h : scope.Moves scope' x y) {z : String} (hx : z ≠ x) (hy : z ≠ y) (v : Value) :
    (scope.bind z v).Moves (scope'.bind z v) x y where
  others n hnx hny := by
    by_cases hz : n = z
    · simp [Scope.bind, hz]
    · simp [Scope.bind, hz, h.others n hnx hny]
  moved := by simp [Scope.bind, hx.symm, hy.symm, h.moved]
  present := by simp [Scope.bind, hx.symm, h.present]

theorem name (h : scope.Moves scope' x y) (hn : n ≠ y) :
    scope' (if n = x then y else n) = scope n := by
  by_cases hx : n = x
  · rw [if_pos hx, h.moved, hx]
  · rw [if_neg hx, h.others n hx hn]

/-- A name that stands for nothing is not the one that was moved. -/
theorem name_eq_self (h : scope.Moves scope' x y) (hn : scope n = none) :
    (if n = x then y else n) = n := by
  refine if_neg fun hx => ?_
  have hsome := h.present
  rw [← hx, hn] at hsome
  cases hsome

end Scope.Moves

namespace Expression

mutual

/-- The expression with what it reads by the name `x` read by the name `y`. An arrow function or a
bracket filter that binds `x` again keeps its own. -/
def renamed (x y : String) : Expression → Expression
  | literal v => literal v
  | name n => name (if n = x then y else n)
  | array items => array (renamedAll x y items)
  | member object property => member (renamed x y object) property
  | index object position => index (renamed x y object) (renamed x y position)
  | projection source key => projection (renamed x y source) key
  | filter source predicate =>
    filter (renamed x y source) (if itemName = x then predicate else renamed x y predicate)
  | length operand => length (renamed x y operand)
  | call callee args => call callee (renamedAll x y args)
  | lambda param body => lambda param (if param = x then body else renamed x y body)
  | unary op operand => unary op (renamed x y operand)
  | binary op left right => binary op (renamed x y left) (renamed x y right)
  | conditional test consequent alternate =>
    conditional (renamed x y test) (renamed x y consequent) (renamed x y alternate)

def renamedAll (x y : String) : List Expression → List Expression
  | [] => []
  | e :: es => renamed x y e :: renamedAll x y es

end

/-- A name that an expression neither reads nor binds. A bracket filter binds the item. -/
structure Fresh (y : String) (e : Expression) : Prop where
  unnamed : y ∉ e.names
  noItem : y = itemName →
    ∀ place source predicate, ¬e.Reaches children place (filter source predicate)

namespace Fresh

variable {y : String} {e c found : Expression} {place : List Nat}

theorem reached (h : Fresh y e) (hr : e.Reaches children place found) : Fresh y found := by
  induction hr with
  | here e => exact h
  | @child e c found i place hc hr ih =>
    exact ih ⟨fun hmem => h.unnamed (mem_names_of_child hc hmem),
      fun hy place source predicate hfilter => h.noItem hy (i :: place) _ _ (.child hc hfilter)⟩

theorem child (h : Fresh y e) (hc : c ∈ e.children) : Fresh y c := by
  obtain ⟨i, hi⟩ := List.getElem?_of_mem hc
  exact h.reached (.child hi (.here c))

theorem ne_name {n : String} (h : Fresh y (name n)) : n ≠ y :=
  fun hn => h.unnamed (by simp [names, hn])

theorem ne_param {param : String} {body : Expression} (h : Fresh y (lambda param body)) :
    param ≠ y :=
  fun hn => h.unnamed (by simp [names, hn])

theorem ne_item {source predicate : Expression} (h : Fresh y (filter source predicate)) :
    itemName ≠ y :=
  fun hy => h.noItem hy.symm [] _ _ (.here _)

end Fresh

section

variable {x y : String} {scope scope' : Scope} {e : Expression}

theorem length_renamedAll (es : List Expression) : (renamedAll x y es).length = es.length := by
  induction es with
  | nil => rfl
  | cons e es ih => simp [renamedAll, ih]

theorem constantMember?_renamed (h : scope.Moves scope' x y) (hy : Fresh y e) (property : String) :
    constantMember? scope' (renamed x y e) property = constantMember? scope e property := by
  cases e with
  | name base =>
    simp only [renamed, constantMember?, h.name hy.ne_name]
    cases hv : scope base with
    | some v => rfl
    | none => rw [h.name_eq_self hv]
  | _ => rfl

theorem tolerant_renamed (h : scope.Moves scope' x y) (hy : Fresh y e)
    (ho : evaluate scope' (renamed x y e) = evaluate scope e) :
    tolerant scope' (renamed x y e) (evaluate scope' (renamed x y e)) =
      tolerant scope e (evaluate scope e) := by
  cases e with
  | name n => simp only [renamed, tolerant, h.name hy.ne_name]
  | _ => exact ho

/-- Where `x` is bound again the moved name is out of sight. -/
theorem evaluate_bind_of_moves (h : scope.Moves scope' x y) (hy : Fresh y e) (v : Value) :
    evaluate (scope'.bind x v) e = evaluate (scope.bind x v) e := by
  refine @evaluate_congr e [] _ _ fun n hn => ?_
  have hfree : n ∈ freeNames [] e := by simpa using hn
  have hny : n ≠ y := fun he => hy.unnamed (he ▸ mem_names_of_mem_freeNames hfree)
  by_cases hx : n = x
  · simp [Scope.bind, hx]
  · simp [Scope.bind, hx, h.others n hx hny]

end

section

variable {x y : String}

mutual

/-- By the structure of the expression. Where it binds another name the scopes stay related, and
where it binds `x` they agree on all that is read. -/
theorem evaluate_renamed (e : Expression) {scope scope' : Scope} (h : scope.Moves scope' x y)
    (hy : Fresh y e) : evaluate scope' (renamed x y e) = evaluate scope e := by
  have hchild {c : Expression} (hc : c ∈ e.children) : Fresh y c := hy.child hc
  cases e with
  | literal v => rfl
  | name n =>
    simp only [renamed, evaluate, h.name hy.ne_name]
    cases hv : scope n with
    | some v => rfl
    | none => rw [h.name_eq_self hv]
  | array items =>
    simp only [renamed, evaluate, evaluateAll_renamedAll items h fun _ hc => hchild hc]
  | member object property =>
    have hobject := hchild (c := object) (by simp [children])
    simp only [renamed, evaluate, constantMember?_renamed h hobject,
      evaluate_renamed object h hobject]
  | index object position =>
    have ho := evaluate_renamed object h (hchild (by simp [children]))
    have hp := evaluate_renamed position h (hchild (by simp [children]))
    simp only [renamed, evaluate, ho, hp]
  | projection source key =>
    have hsource := hchild (c := source) (by simp [children])
    have hs := tolerant_renamed h hsource (evaluate_renamed source h hsource)
    simp only [renamed, evaluate, hs]
  | filter source predicate =>
    have hsource := hchild (c := source) (by simp [children])
    have hpredicate := hchild (c := predicate) (by simp [children])
    have hs := tolerant_renamed h hsource (evaluate_renamed source h hsource)
    have hp : ∀ item, evaluate (scope'.bind itemName item)
          (if itemName = x then predicate else renamed x y predicate) =
        evaluate (scope.bind itemName item) predicate := by
      intro item
      by_cases hx : itemName = x
      · rw [if_pos hx, hx]
        exact evaluate_bind_of_moves h hpredicate item
      · rw [if_neg hx]
        exact evaluate_renamed predicate (h.bind hx hy.ne_item item) hpredicate
    simp only [renamed, evaluate, hs, hp]
  | length operand =>
    have hoperand := hchild (c := operand) (by simp [children])
    have ho := tolerant_renamed h hoperand (evaluate_renamed operand h hoperand)
    simp only [renamed, evaluate, ho]
  | call callee args =>
    have hargs : ∀ c ∈ args, Fresh y c := fun _ hc => hchild hc
    simp only [renamed, evaluate, evaluateFilter_renamedAll args h hargs,
      evaluateArgs_renamedAll args h hargs]
  | lambda param body => rfl
  | unary op operand =>
    simp only [renamed, evaluate, evaluate_renamed operand h (hchild (by simp [children]))]
  | binary op left right =>
    have hl := evaluate_renamed left h (hchild (by simp [children]))
    have hr := evaluate_renamed right h (hchild (by simp [children]))
    cases op <;> simp only [renamed, evaluate, hl, hr]
  | conditional test consequent alternate =>
    have ht := evaluate_renamed test h (hchild (by simp [children]))
    have hc := evaluate_renamed consequent h (hchild (by simp [children]))
    have ha := evaluate_renamed alternate h (hchild (by simp [children]))
    simp only [renamed, evaluate, ht, hc, ha]

theorem evaluateAll_renamedAll (es : List Expression) {scope scope' : Scope}
    (h : scope.Moves scope' x y) (hy : ∀ e ∈ es, Fresh y e) :
    evaluateAll scope' (renamedAll x y es) = evaluateAll scope es := by
  cases es with
  | nil => rfl
  | cons e es =>
    obtain ⟨he, hes⟩ := List.forall_mem_cons.mp hy
    simp only [renamedAll, evaluateAll, evaluate_renamed e h he, evaluateAll_renamedAll es h hes]

theorem evaluateArgs_renamedAll (es : List Expression) {scope scope' : Scope}
    (h : scope.Moves scope' x y) (hy : ∀ e ∈ es, Fresh y e) :
    evaluateArgs scope' (renamedAll x y es) = evaluateArgs scope es := by
  cases es with
  | nil => rfl
  | cons e es =>
    obtain ⟨he, hes⟩ := List.forall_mem_cons.mp hy
    have hfirst := tolerant_renamed h he (evaluate_renamed e h he)
    simp only [renamedAll, evaluateArgs, hfirst, evaluateArgs_renamedAll es h hes]

theorem evaluateFilter_renamedAll (es : List Expression) {scope scope' : Scope}
    (h : scope.Moves scope' x y) (hy : ∀ e ∈ es, Fresh y e) :
    evaluateFilter scope' (renamedAll x y es) = evaluateFilter scope es := by
  match es, hy with
  | [], _ | [_], _ => rfl
  | first :: second :: third :: rest, _ =>
    rw [evaluateFilter_arity _ (by simp [length_renamedAll]), evaluateFilter_arity _ (by simp),
      length_renamedAll]
  | [source, e], hy =>
    have hsource : Fresh y source := hy source (by simp)
    have hs := tolerant_renamed h hsource (evaluate_renamed source h hsource)
    cases e with
    | lambda param body =>
      have hlambda : Fresh y (lambda param body) := hy _ (by simp)
      have hbody : Fresh y body := hlambda.child (by simp [children])
      have hb : ∀ item, evaluate (scope'.bind param item)
            (if param = x then body else renamed x y body) =
          evaluate (scope.bind param item) body := by
        intro item
        by_cases hx : param = x
        · rw [if_pos hx, hx]
          exact evaluate_bind_of_moves h hbody item
        · rw [if_neg hx]
          exact evaluate_renamed body (h.bind hx hlambda.ne_param item) hbody
      simp only [renamedAll, renamed, evaluateFilter, hs, hb]
    | _ => rfl

end

end

theorem tolerant_of_ne_name {e : Expression} (h : ∀ n, e ≠ name n) (scope : Scope)
    (outcome : Except EvalError Value) : tolerant scope e outcome = outcome := by
  cases e with
  | name n => exact absurd rfl (h n)
  | _ => rfl

theorem constantMember?_of_ne_name {e : Expression} (h : ∀ n, e ≠ name n) (scope : Scope)
    (property : String) : constantMember? scope e property = none := by
  cases e with
  | name n => exact absurd rfl (h n)
  | _ => rfl

/-- Nothing that may stand around an expression tells the two apart: they have the same value,
either is a bare name only if it is the other, and as the test of a filter they pass the same
items. -/
structure Interchangeable (e e' : Expression) : Prop where
  value : ∀ scope, evaluate scope e' = evaluate scope e
  bare : e' = e ∨ (∀ n, e ≠ name n) ∧ ∀ n, e' ≠ name n
  test : ∀ scope source, evaluateFilter scope [source, e'] = evaluateFilter scope [source, e]

namespace Interchangeable

variable {e e' c c' : Expression} {i : Nat}

theorem tolerant_eq (h : Interchangeable e e') (scope : Scope) :
    tolerant scope e' (evaluate scope e') = tolerant scope e (evaluate scope e) := by
  rcases h.bare with rfl | ⟨he, he'⟩
  · rfl
  · rw [tolerant_of_ne_name he', tolerant_of_ne_name he, h.value]

theorem constantMember?_eq (h : Interchangeable e e') (scope : Scope) (property : String) :
    constantMember? scope e' property = constantMember? scope e property := by
  rcases h.bare with rfl | ⟨he, he'⟩
  · rfl
  · rw [constantMember?_of_ne_name he', constantMember?_of_ne_name he]

theorem evaluateAll_set {es : List Expression} (h : Interchangeable c c') (hc : es[i]? = some c)
    (scope : Scope) : evaluateAll scope (es.set i c') = evaluateAll scope es := by
  induction es generalizing i with
  | nil => rfl
  | cons e es ih =>
    cases i with
    | zero =>
      obtain rfl : e = c := by simpa using hc
      simp only [List.set_cons_zero, evaluateAll, h.value]
    | succ i => simp only [List.set_cons_succ, evaluateAll, ih (by simpa using hc)]

theorem evaluateArgs_set {es : List Expression} (h : Interchangeable c c') (hc : es[i]? = some c)
    (scope : Scope) : evaluateArgs scope (es.set i c') = evaluateArgs scope es := by
  induction es generalizing i with
  | nil => rfl
  | cons e es ih =>
    cases i with
    | zero =>
      obtain rfl : e = c := by simpa using hc
      simp only [List.set_cons_zero, evaluateArgs, h.tolerant_eq]
    | succ i => simp only [List.set_cons_succ, evaluateArgs, ih (by simpa using hc)]

theorem evaluateFilter_set {es : List Expression} (h : Interchangeable c c')
    (hc : es[i]? = some c) (scope : Scope) :
    evaluateFilter scope (es.set i c') = evaluateFilter scope es := by
  by_cases hlength : es.length = 2
  · match es, hlength with
    | [source, e], _ =>
      match i with
      | 0 =>
        obtain rfl : source = c := by simpa using hc
        cases e with
        | lambda param body => simp only [List.set_cons_zero, evaluateFilter, h.tolerant_eq]
        | _ => rfl
      | 1 =>
        obtain rfl : e = c := by simpa using hc
        exact h.test scope source
      | i + 2 => simp at hc
  · rw [evaluateFilter_arity _ (by simpa using hlength), evaluateFilter_arity _ hlength,
      List.length_set]

theorem evaluate_withChildren (h : Interchangeable c c') (hc : e.children[i]? = some c)
    (scope : Scope) :
    evaluate scope (e.withChildren (e.children.set i c')) = evaluate scope e := by
  cases e with
  | literal | name => cases hc
  | array items =>
    have hitems : evaluateAll scope (items.set i c') = _ := h.evaluateAll_set hc scope
    simp only [children, withChildren, evaluate, hitems]
  | call callee args =>
    have hargs : evaluateArgs scope (args.set i c') = _ := h.evaluateArgs_set hc scope
    have hfilter : evaluateFilter scope (args.set i c') = _ := h.evaluateFilter_set hc scope
    simp only [children, withChildren, evaluate, hargs, hfilter]
  | member | lambda | unary =>
    cases i with
    | zero =>
      obtain rfl := Option.some.inj hc
      simp only [children, List.set_cons_zero, withChildren, evaluate, h.value,
        h.constantMember?_eq]
    | succ i => cases hc
  | projection | length =>
    cases i with
    | zero =>
      obtain rfl := Option.some.inj hc
      simp only [children, List.set_cons_zero, withChildren, evaluate, h.tolerant_eq]
    | succ i => cases hc
  | filter source predicate =>
    rcases i with _ | _ | i <;> cases hc
    · simp only [children, List.set_cons_zero, withChildren, evaluate, h.tolerant_eq]
    · simp only [children, List.set_cons_zero, List.set_cons_succ, withChildren, evaluate, h.value]
  | index =>
    rcases i with _ | _ | i <;> cases hc
    all_goals
      simp only [children, List.set_cons_zero, List.set_cons_succ, withChildren, evaluate, h.value]
  | binary op =>
    rcases i with _ | _ | i <;> cases hc
    all_goals
      cases op <;> simp only [children, List.set_cons_zero, List.set_cons_succ, withChildren,
        evaluate, h.value]
  | conditional =>
    rcases i with _ | _ | _ | i <;> cases hc
    all_goals
      simp only [children, List.set_cons_zero, List.set_cons_succ, withChildren, evaluate, h.value]

theorem evaluateFilter_withChildren (h : Interchangeable c c') (hc : e.children[i]? = some c)
    (scope : Scope) (source : Expression) :
    evaluateFilter scope [source, e.withChildren (e.children.set i c')] =
      evaluateFilter scope [source, e] := by
  cases e with
  | literal | name => cases hc
  | lambda param body =>
    cases i with
    | zero =>
      obtain rfl := Option.some.inj hc
      simp only [children, List.set_cons_zero, withChildren, evaluateFilter, h.value]
    | succ i => cases hc
  | array | call => rfl
  | member | projection | length | unary => cases i <;> rfl
  | index | filter | binary => rcases i with _ | _ | i <;> rfl
  | conditional => rcases i with _ | _ | _ | i <;> rfl

theorem withChildren (h : Interchangeable c c') (hc : e.children[i]? = some c) :
    Interchangeable e (e.withChildren (e.children.set i c')) where
  value := h.evaluate_withChildren hc
  bare := by
    refine .inr ⟨fun n hn => ?_, fun n hn => ?_⟩
    · subst hn
      cases hc
    · have hchildren := children_withChildren (e := e) (List.length_set (a := c') (i := i))
      rw [hn, children] at hchildren
      obtain ⟨hi, -⟩ := List.getElem?_eq_some_iff.mp hc
      have hlength := congrArg List.length hchildren
      rw [List.length_set, List.length_nil] at hlength
      omega
  test := h.evaluateFilter_withChildren hc

end Interchangeable

theorem interchangeable_lambda {x y : String} {body : Expression} (hy : Fresh y body) :
    Interchangeable (lambda x body) (lambda y (renamed x y body)) where
  value _ := rfl
  bare := .inr ⟨by simp, by simp⟩
  test scope source := by
    have htest : ∀ item, evaluate (scope.bind y item) (renamed x y body) =
        evaluate (scope.bind x item) body :=
      fun item => evaluate_renamed body (.item scope x y item) hy
    simp only [evaluateFilter, htest]

end Expression

/-- Any arrow function of an expression may take a fresh name for its parameter. In a filter the
parameter stands for the item whatever it stood for outside, and every other name for what it stands
for outside; so a field of that name is not seen by the tests. -/
theorem evaluate_renamed_param :
    (∀ (e : Expression) (place : List Nat) (x y : String) (body : Expression),
      e.Reaches Expression.children place (.lambda x body) → e.Fresh y → ∀ scope : Scope,
        (Expression.setAt (.lambda y (body.renamed x y)) place e).evaluate scope =
          e.evaluate scope) ∧
    (∀ (scope : Scope) (source : Expression) (x : String) (body : Expression),
      (Expression.call "filter" [source, .lambda x body]).evaluate scope =
        source.tolerant scope (source.evaluate scope) >>= Expression.filtered fun item =>
          body.evaluate fun n => if n = x then some item else scope n) ∧
    ∀ (c : Context) (source : Expression) (x : String) (body : Expression) (v : Value),
      x ∉ source.referencedFields →
        (Expression.call "filter" [source, .lambda x body]).evaluate (c.insert x v).scope =
          (Expression.call "filter" [source, .lambda x body]).evaluate c.scope := by
  refine ⟨fun e place x y body hplace hy scope => ?_, fun scope source x body => ?_,
    fun c source x body v hx => ?_⟩
  · have hbody := (hy.reached hplace).child (c := body) (by simp [Expression.children])
    exact (hplace.setAt_congr (fun hc h => h.withChildren hc)
      (Expression.interchangeable_lambda hbody)).value scope
  · exact Expression.evaluate_call_filter scope source x body
  · refine Expression.evaluate_scope_congr fun n hn => Context.get?_insert_of_ne c v ?_
    rintro rfl
    have hfree := Expression.mem_referencedFields.mp hn
    simp only [Expression.freeNames, Expression.freeNamesAll, List.append_nil,
      List.mem_append] at hfree
    rcases hfree with hfree | hfree
    · exact hx (Expression.mem_referencedFields.mpr hfree)
    · exact Expression.notMem_bound_of_mem_freeNames hfree List.mem_cons_self

/-- An outer parameter that is called like the namespace of the constants, and whose name an inner
one hides, becomes `row`. -/
theorem renamed_param_math :
    let inner := Expression.call "filter"
      [.member (.name "Math") "parts", .lambda "Math" (.member (.name "Math") "open")]
    let body := Expression.binary .less (.length inner) (.member (.name "Math") "PI")
    let e := Expression.call "filter" [.name "rows", .lambda "Math" body]
    let inner' := Expression.call "filter"
      [.member (.name "row") "parts", .lambda "Math" (.member (.name "Math") "open")]
    let e' := Expression.call "filter" [.name "rows",
      .lambda "row" (.binary .less (.length inner') (.member (.name "row") "PI"))]
    e.Reaches Expression.children [1] (.lambda "Math" body) ∧ e.Fresh "row" ∧
      (∀ scope : Scope, e'.evaluate scope = e.evaluate scope) ∧
      "Math" ∉ (Expression.name "rows").referencedFields ∧
      ∀ c : Context, e.evaluate (c.insert "Math" .null).scope = e.evaluate c.scope := by
  intro inner body e inner' e'
  have hplace : e.Reaches Expression.children [1] (.lambda "Math" body) := .child rfl (.here _)
  have hfresh : e.Fresh "row" := ⟨by decide +kernel, fun h => absurd h (by decide)⟩
  have hfields : "Math" ∉ (Expression.name "rows").referencedFields := by decide +kernel
  exact ⟨hplace, hfresh, evaluate_renamed_param.1 e [1] "Math" "row" body hplace hfresh, hfields,
    fun c => evaluate_renamed_param.2.2 c (.name "rows") "Math" body .null hfields⟩

end Stagewise
