import Stagewise.Formula.Fields
import Stagewise.Proofs.Record

/-! What a formula does not name, it does not depend on. The collector of free names carries a list
of bound names where the evaluator carries a chain of scopes; the two meet in scopes that agree on
the bound names and on the free ones. -/

namespace Stagewise

/-- Each of the names is absent from both, or present in both with the same value. -/
def Scope.Agrees (scope scope' : Scope) (bound free : List String) : Prop :=
  ∀ n, n ∈ bound ∨ n ∈ free → scope n = scope' n

namespace Scope.Agrees

variable {bound free free' : List String} {scope scope' : Scope}

theorem mono (h : scope.Agrees scope' bound free) (hs : free' ⊆ free) :
    scope.Agrees scope' bound free' :=
  fun n hn => h n (hn.imp_right (hs ·))

theorem bind (h : scope.Agrees scope' bound free) (name : String) (value : Value) :
    (scope.bind name value).Agrees (scope'.bind name value) (name :: bound) free := by
  intro n hn
  by_cases hname : n = name
  · simp [Scope.bind, hname]
  · have hn' : n ∈ bound ∨ n ∈ free := by simpa [hname] using hn
    simp [Scope.bind, hname, h n hn']

theorem name {n : String} (h : scope.Agrees scope' bound (Expression.freeNames bound (.name n))) :
    scope n = scope' n := by
  by_cases hn : n ∈ bound
  · exact h n (.inl hn)
  · exact h n (.inr (by simp [Expression.freeNames, hn]))

end Scope.Agrees

namespace Expression

section

variable {bound : List String} {scope scope' : Scope} {e : Expression}

/-- A member on a bare name asks whether the name stands for anything, and so reads it. -/
theorem constantMember?_congr (h : scope.Agrees scope' bound (freeNames bound e))
    (property : String) : constantMember? scope e property = constantMember? scope' e property := by
  cases e with
  | name base => simp [constantMember?, h.name]
  | _ => rfl

theorem tolerant_congr (h : scope.Agrees scope' bound (freeNames bound e))
    {outcome outcome' : Except EvalError Value} (ho : outcome = outcome') :
    tolerant scope e outcome = tolerant scope' e outcome' := by
  cases e with
  | name n => simp [tolerant, h.name]
  | _ => exact ho

end

theorem evaluateFilter_arity (scope : Scope) {es : List Expression} (h : es.length ≠ 2) :
    evaluateFilter scope es = .error (.arity "filter" 2 2 es.length) := by
  unfold evaluateFilter
  split
  · exact absurd rfl h
  · exact absurd rfl h
  · rfl

mutual

/-- By the structure of the expression. Under an arrow function and in a bracket filter the item
joins the bound names on both sides. -/
theorem evaluate_congr (e : Expression) {bound : List String} {scope scope' : Scope}
    (h : scope.Agrees scope' bound (freeNames bound e)) :
    evaluate scope e = evaluate scope' e := by
  cases e with
  | literal v => rfl
  | name n => simp only [evaluate, h.name]
  | array items => simp only [evaluate, evaluateAll_congr items h]
  | member object property =>
    have hc := constantMember?_congr (e := object) h property
    simp only [evaluate, hc, evaluate_congr object h]
  | index object position =>
    have ho := evaluate_congr object (h.mono (by simp [freeNames]))
    have hp := evaluate_congr position (h.mono (by simp [freeNames]))
    simp only [evaluate, ho, hp]
  | projection source key =>
    have hs := tolerant_congr (e := source) h (evaluate_congr source h)
    simp only [evaluate, hs]
  | filter source predicate =>
    have hsource : scope.Agrees scope' bound (freeNames bound source) :=
      h.mono (by simp [freeNames])
    have hpredicate : scope.Agrees scope' bound (freeNames (itemName :: bound) predicate) :=
      h.mono (by simp [freeNames])
    have hs := tolerant_congr hsource (evaluate_congr source hsource)
    have hp : ∀ item, evaluate (scope.bind itemName item) predicate =
        evaluate (scope'.bind itemName item) predicate :=
      fun item => evaluate_congr predicate (hpredicate.bind itemName item)
    simp only [evaluate, hs, hp]
  | length operand =>
    have ho := tolerant_congr (e := operand) h (evaluate_congr operand h)
    simp only [evaluate, ho]
  | call callee args =>
    simp only [evaluate, evaluateFilter_congr args h, evaluateArgs_congr args h]
  | lambda param body => rfl
  | unary op operand => simp only [evaluate, evaluate_congr operand h]
  | binary op left right =>
    have hl := evaluate_congr left (h.mono (by simp [freeNames]))
    have hr := evaluate_congr right (h.mono (by simp [freeNames]))
    cases op <;> simp only [evaluate, hl, hr]
  | conditional test consequent alternate =>
    have ht := evaluate_congr test (h.mono (by simp [freeNames]))
    have hc := evaluate_congr consequent (h.mono (by simp [freeNames]))
    have ha := evaluate_congr alternate (h.mono (by simp [freeNames]))
    simp only [evaluate, ht, hc, ha]

theorem evaluateAll_congr (es : List Expression) {bound : List String} {scope scope' : Scope}
    (h : scope.Agrees scope' bound (freeNamesAll bound es)) :
    evaluateAll scope es = evaluateAll scope' es := by
  cases es with
  | nil => rfl
  | cons e es =>
    have he := evaluate_congr e (h.mono (by simp [freeNamesAll]))
    have hes := evaluateAll_congr es (h.mono (by simp [freeNamesAll]))
    simp only [evaluateAll, he, hes]

theorem evaluateArgs_congr (es : List Expression) {bound : List String} {scope scope' : Scope}
    (h : scope.Agrees scope' bound (freeNamesAll bound es)) :
    evaluateArgs scope es = evaluateArgs scope' es := by
  cases es with
  | nil => rfl
  | cons e es =>
    have hfirst : scope.Agrees scope' bound (freeNames bound e) := h.mono (by simp [freeNamesAll])
    have he := tolerant_congr hfirst (evaluate_congr e hfirst)
    have hes := evaluateArgs_congr es (h.mono (by simp [freeNamesAll]))
    simp only [evaluateArgs, he, hes]

theorem evaluateFilter_congr (es : List Expression) {bound : List String} {scope scope' : Scope}
    (h : scope.Agrees scope' bound (freeNamesAll bound es)) :
    evaluateFilter scope es = evaluateFilter scope' es := by
  match es, h with
  | [], _ => rfl
  | [_], _ => rfl
  | _ :: _ :: _ :: _, _ => rw [evaluateFilter_arity _ (by simp), evaluateFilter_arity _ (by simp)]
  | [source, e], h =>
    cases e with
    | lambda param body =>
      have hsource : scope.Agrees scope' bound (freeNames bound source) :=
        h.mono (by simp [freeNamesAll])
      have hbody : scope.Agrees scope' bound (freeNames (param :: bound) body) :=
        h.mono (by simp [freeNamesAll, freeNames])
      have hs := tolerant_congr hsource (evaluate_congr source hsource)
      have hb : ∀ item, evaluate (scope.bind param item) body =
          evaluate (scope'.bind param item) body :=
        fun item => evaluate_congr body (hbody.bind param item)
      simp only [evaluateFilter, hs, hb]
    | _ => rfl

end

theorem mem_referencedFields {e : Expression} {n : String} :
    n ∈ e.referencedFields ↔ n ∈ e.freeNames [] := by
  simp [referencedFields, Record.mem_names_ofList]

end Expression

namespace Context

/-- Each of the names is absent from both, or present in both with the same value. -/
def AgreeOn (names : List String) (c d : Context) : Prop :=
  ∀ n ∈ names, c.get? n = d.get? n

/-- Agreement on what the formula of a text reads; a text that is no formula reads nothing. -/
def AgreeFor (source : String) (c d : Context) : Prop :=
  ∀ f, Formula.parse source = .ok f → AgreeOn f.referencedFields c d

theorem get?_ofJson (record : Json) (n : String) :
    (ofJson record).get? n = (record.field? n).map Value.ofJson := by
  cases record with
  | object fields =>
    change Record.get? (Value.ofJsonFields fields) n = (Record.get? fields n).map Value.ofJson
    induction fields with
    | nil => rfl
    | cons field rest ih =>
      by_cases h : n = field.1
      · simp [Value.ofJsonFields, Record.get?, h]
      · simp [Value.ofJsonFields, Record.get?, h, ih]
  | _ => rfl

theorem agreeOn_ofJson {names : List String} {r s : Json}
    (h : ∀ n ∈ names, r.field? n = s.field? n) : AgreeOn names (ofJson r) (ofJson s) := by
  intro n hn
  rw [get?_ofJson, get?_ofJson, h n hn]

end Context

theorem Expression.evaluate_scope_congr {e : Expression} {c d : Context}
    (h : Context.AgreeOn e.referencedFields c d) : e.evaluate c.scope = e.evaluate d.scope := by
  have hagrees : c.scope.Agrees d.scope [] (e.freeNames []) := by
    intro n hn
    have hfree : n ∈ e.freeNames [] := by simpa using hn
    exact h n (mem_referencedFields.mpr hfree)
  exact e.evaluate_congr hagrees

section

variable {source : String} {c d : Context}

theorem evaluateText_congr {r s : Json}
    (h : Context.AgreeFor source (Context.ofJson r) (Context.ofJson s)) :
    evaluateText source r = evaluateText source s := by
  unfold evaluateText
  cases hf : Formula.parse source with
  | error e => rfl
  | ok f =>
    have he : f.evaluateJson r = f.evaluateJson s := Expression.evaluate_scope_congr (h f hf)
    simp only [he]

theorem conditionHoldsIn_congr (h : Context.AgreeFor source c d) :
    conditionHoldsIn source c = conditionHoldsIn source d := by
  unfold conditionHoldsIn
  cases hf : Formula.parse source with
  | error e => rfl
  | ok f =>
    have he : f.evaluate c = f.evaluate d := Expression.evaluate_scope_congr (h f hf)
    simp only [Formula.condition, he]

theorem computedIn?_congr (h : Context.AgreeFor source c d) :
    computedIn? source c = computedIn? source d := by
  unfold computedIn?
  cases hf : Formula.parse source with
  | error e => rfl
  | ok f =>
    have he : f.evaluate c = f.evaluate d := Expression.evaluate_scope_congr (h f hf)
    simp only [Formula.value?, he]

end

namespace FieldFormulas

def sources (g : FieldFormulas) : List String :=
  g.visibleWhen.toList ++ g.enabledWhen.toList ++ g.computed.toList

theorem all_conditionHoldsIn_congr {formula : Option String} {c d : Context}
    (h : ∀ source ∈ formula.toList, Context.AgreeFor source c d) :
    (formula.all fun source => conditionHoldsIn source c) =
      formula.all fun source => conditionHoldsIn source d := by
  cases formula with
  | none => rfl
  | some source => exact conditionHoldsIn_congr (h source (by simp))

theorem bind_computedIn?_congr {formula : Option String} {c d : Context}
    (h : ∀ source ∈ formula.toList, Context.AgreeFor source c d) :
    (formula.bind fun source => computedIn? source c) =
      formula.bind fun source => computedIn? source d := by
  cases formula with
  | none => rfl
  | some source => exact computedIn?_congr (h source (by simp))

theorem resolve_congr {g : FieldFormulas} {r s : Json}
    (h : ∀ source ∈ g.sources, Context.AgreeFor source (Context.ofJson r) (Context.ofJson s)) :
    g.resolve r = g.resolve s := by
  simp only [sources, List.mem_append] at h
  have hvisible := all_conditionHoldsIn_congr fun source hs => h source (.inl (.inl hs))
  have henabled := all_conditionHoldsIn_congr fun source hs => h source (.inl (.inr hs))
  have hvalue := bind_computedIn?_congr fun source hs => h source (.inr hs)
  simp only [resolve, hvisible, henabled, hvalue]

end FieldFormulas

/-- On expressions, on texts and on the formulas of a field. -/
theorem evaluate_noninterference :
    (∀ (e : Expression) (c d : Context), Context.AgreeOn e.referencedFields c d →
      e.evaluate c.scope = e.evaluate d.scope) ∧
    (∀ (source : String) (r s : Json),
      Context.AgreeFor source (Context.ofJson r) (Context.ofJson s) →
        evaluateText source r = evaluateText source s ∧
        conditionHolds source r = conditionHolds source s ∧
        computed? source r = computed? source s) ∧
    ∀ (g : FieldFormulas) (r s : Json),
      (∀ source ∈ g.sources, Context.AgreeFor source (Context.ofJson r) (Context.ofJson s)) →
        g.resolve r = g.resolve s := by
  refine ⟨fun _ _ _ h => Expression.evaluate_scope_congr h, fun source r s h => ?_,
    fun _ _ _ h => FieldFormulas.resolve_congr h⟩
  have he := evaluateText_congr h
  exact ⟨he, by simp only [conditionHolds, he], by simp only [computed?, he]⟩

/-- A field that is shown for `qty > 1` does not change with the price. -/
theorem resolve_qty_of_price :
    let g : FieldFormulas := ⟨some "qty > 1", none, none⟩
    let record (price : Int) := Json.object [("price", .int price), ("qty", .int 2)]
    (∀ source ∈ g.sources, Context.AgreeFor source (Context.ofJson (record 3))
      (Context.ofJson (record 4))) ∧ g.resolve (record 3) = g.resolve (record 4) := by
  intro g record
  have hreads : (Formula.parse "qty > 1").toOption.map Formula.referencedFields = some ["qty"] := by
    decide +kernel
  have hg : ∀ source ∈ g.sources, Context.AgreeFor source (Context.ofJson (record 3))
      (Context.ofJson (record 4)) := by
    intro source hsource f hf
    obtain rfl : source = "qty > 1" := by simpa [g, FieldFormulas.sources] using hsource
    have hfields : f.referencedFields = ["qty"] := by simpa [hf, Except.toOption] using hreads
    refine Context.agreeOn_ofJson fun n hn => ?_
    obtain rfl : n = "qty" := by simpa [hfields] using hn
    rfl
  exact ⟨hg, evaluate_noninterference.2.2 g _ _ hg⟩

end Stagewise
