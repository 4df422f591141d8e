import Stagewise.Formula.Tree
import Stagewise.Proofs.Formula.Noninterference
import Stagewise.Proofs.Outcome

/-! The shorthands stand for calls: a projection for one of `map`, and a bracket filter for one of
`filter` whose arrow function names the item. The names of the parameters are free to choose among
those that the expression does not mention. -/

namespace Stagewise

namespace Expression

mutual

/-- The names that are read or bound anywhere. -/
def names : Expression → List String
  | literal _ => []
  | name n => [n]
  | array items => namesAll items
  | call _ args => namesAll args
  | member e _ | projection e _ | length e | unary _ e => names e
  | lambda param body => param :: names body
  | index a b | filter a b | binary _ a b => names a ++ names b
  | conditional a b c => names a ++ names b ++ names c

def namesAll : List Expression → List String
  | [] => []
  | e :: es => names e ++ namesAll es

end

section

variable (pick : List Nat → String)

mutual

/-- The expression at a place without its shorthands. The current item goes by the name `item`. The
item of a bracket filter takes over in its predicate, by the name that is picked for its place. -/
def longForm (place : List Nat) (item : String) : Expression → Expression
  | literal v => literal v
  | name n => name (if n = itemName then item else n)
  | array items => array (longForms place 0 item items)
  | member object property => member (longForm (place ++ [0]) item object) property
  | index object position =>
    index (longForm (place ++ [0]) item object) (longForm (place ++ [1]) item position)
  | projection source key =>
    call "map" [longForm (place ++ [0]) item source, literal (.text key)]
  | filter source predicate =>
    call "filter" [longForm (place ++ [0]) item source,
      lambda (pick place) (longForm (place ++ [1]) (pick place) predicate)]
  | length operand => length (longForm (place ++ [0]) item operand)
  | call callee args => call callee (longForms place 0 item args)
  | lambda param body =>
    lambda param (longForm (place ++ [0]) (if param = itemName then itemName else item) body)
  | unary op operand => unary op (longForm (place ++ [0]) item operand)
  | binary op left right =>
    binary op (longForm (place ++ [0]) item left) (longForm (place ++ [1]) item right)
  | conditional test consequent alternate =>
    conditional (longForm (place ++ [0]) item test) (longForm (place ++ [1]) item consequent)
      (longForm (place ++ [2]) item alternate)

def longForms (place : List Nat) (i : Nat) (item : String) : List Expression → List Expression
  | [] => []
  | e :: es => longForm (place ++ [i]) item e :: longForms place (i + 1) item es

end

end

end Expression

open Expression

/-- The known names stand for the same in both scopes, but that the item of the first goes by the
name `x` in the second. -/
structure Scope.Renames (scope scope' : Scope) (known : List String) (x : String) : Prop where
  others : ∀ n ∈ known, n ≠ itemName → scope' n = scope n
  item : scope' x = scope itemName
  /-- Another name is only used for an item that is there. -/
  fresh : x = itemName ∨ x ∉ known ∧ (scope itemName).isSome = true

namespace Scope.Renames

variable {scope scope' : Scope} {known : List String} {x : String}

theorem refl (scope : Scope) (known : List String) : scope.Renames scope known itemName :=
  ⟨fun _ _ _ => rfl, rfl, .inl rfl⟩

theorem name (h : scope.Renames scope' known x) {n : String} (hn : n ∈ known) :
    scope' (if n = itemName then x else n) = scope n := by
  by_cases hitem : n = itemName
  · rw [if_pos hitem, h.item, hitem]
  · rw [if_neg hitem, h.others n hn hitem]

/-- A name that stands for nothing is no item under another name. -/
theorem name_eq_self (h : scope.Renames scope' known x) {n : String} (hn : scope n = none) :
    (if n = itemName then x else n) = n := by
  by_cases hitem : n = itemName
  · subst hitem
    rcases h.fresh with rfl | ⟨-, hsome⟩
    · exact if_pos rfl
    · simp [hn] at hsome
  · exact if_neg hitem

theorem bindItem (h : scope.Renames scope' known x) {y : String} (hy : y ∉ known) (v : Value) :
    (scope.bind itemName v).Renames (scope'.bind y v) known y where
  others n hn hne := by
    have hny : n ≠ y := fun he => hy (he ▸ hn)
    simp [Scope.bind, hny, hne, h.others n hn hne]
  item := by simp [Scope.bind]
  fresh := .inr ⟨hy, by simp [Scope.bind]⟩

theorem bindParam (h : scope.Renames scope' known x) {param : String} (hp : param ∈ known)
    (v : Value) :
    (scope.bind param v).Renames (scope'.bind param v) known
      (if param = itemName then itemName else x) := by
  have hothers : ∀ n ∈ known, n ≠ itemName →
      scope'.bind param v n = scope.bind param v n := by
    intro n hn hne
    by_cases hparam : n = param
    · simp [Scope.bind, hparam]
    · simp [Scope.bind, hparam, h.others n hn hne]
  by_cases hitem : param = itemName
  · subst hitem
    rw [if_pos rfl]
    exact ⟨hothers, by simp [Scope.bind], .inl rfl⟩
  · rw [if_neg hitem]
    have hne : itemName ≠ param := fun he => hitem he.symm
    have hx : x ≠ param := by
      rcases h.fresh with rfl | ⟨hfresh, -⟩
      · exact hne
      · exact fun he => hfresh (he ▸ hp)
    have hsome : scope.bind param v itemName = scope itemName := by simp [Scope.bind, hne]
    exact ⟨hothers, by simp [Scope.bind, hx, hne, h.item], by rw [hsome]; exact h.fresh⟩

end Scope.Renames

namespace Expression

section

variable {pick : List Nat → String} {known : List String} {scope scope' : Scope} {x : String}

theorem constantMember?_longForm {e : Expression} {place : List Nat}
    (h : scope.Renames scope' known x) (he : e.names ⊆ known) (property : String) :
    constantMember? scope' (longForm pick place x e) property =
      constantMember? scope e property := by
  cases e with
  | name base =>
    have hbase := h.name (he (List.mem_singleton.mpr rfl))
    simp only [longForm, constantMember?, hbase]
    cases hv : scope base with
    | some v => rfl
    | none => rw [h.name_eq_self hv]
  | _ => rfl

theorem tolerant_longForm {e : Expression} {place : List Nat} (h : scope.Renames scope' known x)
    (he : e.names ⊆ known)
    (ho : evaluate scope' (longForm pick place x e) = evaluate scope e) :
    tolerant scope' (longForm pick place x e) (evaluate scope' (longForm pick place x e)) =
      tolerant scope e (evaluate scope e) := by
  cases e with
  | name n => simp only [longForm, tolerant, h.name (he (List.mem_singleton.mpr rfl))]
  | _ => exact ho

theorem length_longForms (place : List Nat) (i : Nat) (es : List Expression) :
    (longForms pick place i x es).length = es.length := by
  induction es generalizing i with
  | nil => rfl
  | cons e es ih => simp [longForms, ih]

end

theorem evaluate_call_map (scope : Scope) (source : Expression) (key : String) :
    evaluate scope (call "map" [source, literal (.text key)]) =
      tolerant scope source (evaluate scope source) >>= fun v => .ok (projected key v) := by
  have hname : Builtin.ofName? "map" = some .map := by decide
  have hother : ¬"map" = "filter" := by decide
  simp only [evaluate, if_neg hother, hname, evaluateArgs]
  cases tolerant scope source (evaluate scope source) <;> rfl

theorem evaluate_call_filter (scope : Scope) (source : Expression) (param : String)
    (body : Expression) :
    evaluate scope (call "filter" [source, lambda param body]) =
      tolerant scope source (evaluate scope source) >>= fun v =>
        filtered (fun item => evaluate (scope.bind param item) body) v := by
  simp only [evaluate, if_true, evaluateFilter]

section

variable {pick : List Nat → String} {known : List String}

mutual

/-- The long form has the same value: wherever the expression binds a name, it binds the same or the
one that was picked. -/
theorem evaluate_longForm (hpick : ∀ place, pick place ∉ known) (e : Expression)
    {scope scope' : Scope} {x : String} (place : List Nat) (h : scope.Renames scope' known x)
    (he : e.names ⊆ known) :
    evaluate scope' (longForm pick place x e) = evaluate scope e := by
  cases e with
  | literal v => rfl
  | name n =>
    have hn := h.name (he (List.mem_singleton.mpr rfl))
    simp only [longForm, evaluate, hn]
    cases hv : scope n with
    | some v => rfl
    | none => rw [h.name_eq_self hv]
  | array items => simp only [longForm, evaluate, evaluateAll_longForms hpick items place 0 h he]
  | member object property =>
    have hc : constantMember? scope' (longForm pick (place ++ [0]) x object) property =
        constantMember? scope object property :=
      constantMember?_longForm (e := object) h he property
    simp only [longForm, evaluate, hc, evaluate_longForm hpick object _ h he]
  | index object position =>
    have ho := evaluate_longForm hpick object (place ++ [0]) h (List.append_subset.mp he).1
    have hp := evaluate_longForm hpick position (place ++ [1]) h (List.append_subset.mp he).2
    simp only [longForm, evaluate, ho, hp]
  | projection source key =>
    have hs := tolerant_longForm (e := source) h he
      (evaluate_longForm hpick source (place ++ [0]) h he)
    simp only [longForm, evaluate_call_map, evaluate, hs]
  | filter source predicate =>
    obtain ⟨hsource, hpredicate⟩ := List.append_subset.mp he
    have hs := tolerant_longForm h hsource
      (evaluate_longForm hpick source (place ++ [0]) h hsource)
    have hp : ∀ item, evaluate (scope'.bind (pick place) item)
          (longForm pick (place ++ [1]) (pick place) predicate) =
        evaluate (scope.bind itemName item) predicate :=
      fun item => evaluate_longForm hpick predicate _ (h.bindItem (hpick place) item) hpredicate
    simp only [longForm, evaluate_call_filter, evaluate, hs, hp]
  | length operand =>
    have ho := tolerant_longForm (e := operand) h he
      (evaluate_longForm hpick operand (place ++ [0]) h he)
    simp only [longForm, evaluate, ho]
  | call callee args =>
    simp only [longForm, evaluate, evaluateFilter_longForms hpick args place h he,
      evaluateArgs_longForms hpick args place 0 h he]
  | lambda param body => rfl
  | unary op operand => simp only [longForm, evaluate, evaluate_longForm hpick operand _ h he]
  | binary op left right =>
    have hl := evaluate_longForm hpick left (place ++ [0]) h (List.append_subset.mp he).1
    have hr := evaluate_longForm hpick right (place ++ [1]) h (List.append_subset.mp he).2
    cases op <;> simp only [longForm, evaluate, hl, hr]
  | conditional test consequent alternate =>
    obtain ⟨hfirst, ha⟩ := List.append_subset.mp he
    obtain ⟨ht, hc⟩ := List.append_subset.mp hfirst
    have ht := evaluate_longForm hpick test (place ++ [0]) h ht
    have hc := evaluate_longForm hpick consequent (place ++ [1]) h hc
    have ha := evaluate_longForm hpick alternate (place ++ [2]) h ha
    simp only [longForm, evaluate, ht, hc, ha]

theorem evaluateAll_longForms (hpick : ∀ place, pick place ∉ known) (es : List Expression)
    {scope scope' : Scope} {x : String} (place : List Nat) (i : Nat)
    (h : scope.Renames scope' known x) (he : namesAll es ⊆ known) :
    evaluateAll scope' (longForms pick place i x es) = evaluateAll scope es := by
  cases es with
  | nil => rfl
  | cons e es =>
    have hfirst := evaluate_longForm hpick e (place ++ [i]) h (List.append_subset.mp he).1
    have hrest := evaluateAll_longForms hpick es place (i + 1) h (List.append_subset.mp he).2
    simp only [longForms, evaluateAll, hfirst, hrest]

theorem evaluateArgs_longForms (hpick : ∀ place, pick place ∉ known) (es : List Expression)
    {scope scope' : Scope} {x : String} (place : List Nat) (i : Nat)
    (h : scope.Renames scope' known x) (he : namesAll es ⊆ known) :
    evaluateArgs scope' (longForms pick place i x es) = evaluateArgs scope es := by
  cases es with
  | nil => rfl
  | cons e es =>
    obtain ⟨he, hes⟩ := List.append_subset.mp he
    have hfirst := tolerant_longForm h he (evaluate_longForm hpick e (place ++ [i]) h he)
    have hrest := evaluateArgs_longForms hpick es place (i + 1) h hes
    simp only [longForms, evaluateArgs, hfirst, hrest]

theorem evaluateFilter_longForms (hpick : ∀ place, pick place ∉ known) (es : List Expression)
    {scope scope' : Scope} {x : String} (place : List Nat) (h : scope.Renames scope' known x)
    (he : namesAll es ⊆ known) :
    evaluateFilter scope' (longForms pick place 0 x es) = evaluateFilter scope es := by
  match es, he with
  | [], _ => rfl
  | [_], _ => rfl
  | first :: second :: third :: rest, _ =>
    rw [evaluateFilter_arity _ (by simp [length_longForms]), evaluateFilter_arity _ (by simp),
      length_longForms]
  | [source, e], he =>
    obtain ⟨hsource, he⟩ := List.append_subset.mp he
    cases e with
    | lambda param body =>
      have hs := tolerant_longForm h hsource
        (evaluate_longForm hpick source (place ++ [0]) h hsource)
      have hbody : param ∈ known ∧ body.names ⊆ known := by
        simpa [namesAll, names] using he
      have hb : ∀ item, evaluate (scope'.bind param item)
            (longForm pick (place ++ [1] ++ [0]) (if param = itemName then itemName else x) body) =
          evaluate (scope.bind param item) body :=
        fun item => evaluate_longForm hpick body _ (h.bindParam hbody.1 item) hbody.2
      simp only [longForms, longForm, evaluateFilter, hs, hb]
    | _ => rfl

end

end

end Expression

/-- Nothing is asked of the picked names but that the expression does not mention them. -/
theorem evaluate_longForm_eq (e : Expression) (pick : List Nat → String)
    (hpick : ∀ place, pick place ∉ e.names) (c : Context) :
    (e.longForm pick [] itemName).evaluate c.scope = e.evaluate c.scope :=
  evaluate_longForm hpick e [] (.refl _ _) fun _ h => h

/-- A filter in the predicate of another one, under a projection. -/
theorem longForm_nested :
    let pick : List Nat → String := fun place => if place = [0] then "order" else "line"
    let lines :=
      ["└── Call map()",
       "    ├── Call filter()",
       "    │   ├── Field: orders",
       "    │   └── Lambda order =>",
       "    │       └── Length (null-safe)",
       "    │           └── Call filter()",
       "    │               ├── Member .lines",
       "    │               │   └── Field: order",
       "    │               └── Lambda line =>",
       "    │                   └── Member .open",
       "    │                       └── Field: line",
       "    └── Literal: \"id\""]
    ∃ f, Formula.parse "orders[lines[open].length].*.id" = .ok f ∧
      (∀ place, pick place ∉ f.expression.names) ∧
      (f.expression.longForm pick [] itemName).treeLines "" true = lines ∧
      ∀ c : Context, (f.expression.longForm pick [] itemName).evaluate c.scope = f.evaluate c := by
  intro pick lines
  have hshape : (Formula.parse "orders[lines[open].length].*.id").toOption.map
      (fun f => (f.expression.names, (f.expression.longForm pick [] itemName).treeLines "" true)) =
        some (["orders", itemName, itemName], lines) := by
    decide +kernel
  obtain ⟨f, hf, hshape⟩ := Option.map_eq_some_iff.mp hshape
  obtain ⟨hnames, hlines⟩ := Prod.mk.inj hshape
  have hpick : ∀ place, pick place ∉ f.expression.names := by
    intro place
    rw [hnames]
    by_cases hplace : place = [0] <;> simp [pick, hplace, itemName]
  exact ⟨f, Outcome.toOption_eq_some_iff.mp hf, hpick, hlines,
    evaluate_longForm_eq f.expression pick hpick⟩

end Stagewise
