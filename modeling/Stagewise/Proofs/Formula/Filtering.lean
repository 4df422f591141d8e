import Mathlib.Data.List.Basic
import Stagewise.Proofs.Formula.LongForm

/-! Filters. The items that are kept are those whose test comes out truthy, and the first test that
fails is the outcome. A test sees its item and the names around the filter and nothing else, so it
comes out the same in every pass: a second filter keeps what the first one kept, and a predicate and
its negation part the items between them. -/

namespace Stagewise

namespace Expression

/-- The ways to write a filter: between brackets, or as a call with an arrow function. -/
inductive FilterForm where
  | brackets
  | arrow (param : String)

namespace FilterForm

/-- The name that the item has in the predicate. -/
def item : FilterForm → String
  | brackets => itemName
  | arrow param => param

def write : FilterForm → Expression → Expression → Expression
  | brackets, source, predicate => filter source predicate
  | arrow param, source, predicate => call "filter" [source, lambda param predicate]

end FilterForm

/-- The test of the item comes out truthy. -/
def passes (test : Value → Except EvalError Value) (item : Value) : Bool :=
  match test item with
  | .ok verdict => verdict.isTruthy
  | .error _ => false

section

variable {test : Value → Except EvalError Value} {items : List Value}

theorem passes_of_ok {item verdict : Value} (h : test item = .ok verdict) :
    passes test item = verdict.isTruthy := by
  simp only [passes, h]

theorem kept_cons_of_ok {item verdict : Value} (h : test item = .ok verdict) :
    kept test (item :: items) = (kept test items).map fun others =>
      if verdict.isTruthy then item :: others else others := by
  rw [kept, h]
  cases kept test items <;> rfl

theorem kept_of_forall_ok (h : ∀ item ∈ items, ∃ verdict, test item = .ok verdict) :
    kept test items = .ok (items.filter (passes test)) := by
  induction items with
  | nil => rfl
  | cons item rest ih =>
    obtain ⟨⟨verdict, hitem⟩, hrest⟩ := List.forall_mem_cons.mp h
    rw [kept_cons_of_ok hitem, ih hrest, List.filter_cons, passes_of_ok hitem]
    rfl

theorem kept_of_first_error {before after : List Value} {item : Value} {e : EvalError}
    (hbefore : ∀ other ∈ before, ∃ verdict, test other = .ok verdict) (he : test item = .error e) :
    kept test (before ++ item :: after) = .error e := by
  induction before with
  | nil =>
    rw [List.nil_append, kept, he]
    rfl
  | cons other rest ih =>
    obtain ⟨⟨verdict, hother⟩, hrest⟩ := List.forall_mem_cons.mp hbefore
    rw [List.cons_append, kept_cons_of_ok hother, ih hrest]
    rfl

theorem forall_ok_or_first_error (test : Value → Except EvalError Value) (items : List Value) :
    (∀ item ∈ items, ∃ verdict, test item = .ok verdict) ∨
      ∃ before item after e, items = before ++ item :: after ∧
        (∀ other ∈ before, ∃ verdict, test other = .ok verdict) ∧ test item = .error e := by
  induction items with
  | nil => exact .inl (List.forall_mem_nil _)
  | cons item rest ih =>
    cases hitem : test item with
    | error e => exact .inr ⟨[], item, rest, e, rfl, List.forall_mem_nil _, hitem⟩
    | ok verdict =>
      rcases ih with hrest | ⟨before, other, after, e, rfl, hbefore, he⟩
      · exact .inl (List.forall_mem_cons.mpr ⟨⟨verdict, hitem⟩, hrest⟩)
      · exact .inr ⟨item :: before, other, after, e, rfl,
          List.forall_mem_cons.mpr ⟨⟨verdict, hitem⟩, hbefore⟩, he⟩

theorem kept_eq_ok_iff {chosen : List Value} :
    kept test items = .ok chosen ↔
      (∀ item ∈ items, ∃ verdict, test item = .ok verdict) ∧
        chosen = items.filter (passes test) := by
  constructor
  · intro h
    obtain hall | ⟨before, item, after, e, rfl, hbefore, he⟩ := forall_ok_or_first_error test items
    · exact ⟨hall, Except.ok.inj (h.symm.trans (kept_of_forall_ok hall))⟩
    · cases h.symm.trans (kept_of_first_error hbefore he)
  · rintro ⟨hall, rfl⟩
    exact kept_of_forall_ok hall

/-- What is kept passes again, and in a second pass no other item is looked at. -/
theorem kept_of_kept {chosen : List Value} (h : kept test items = .ok chosen) :
    kept test chosen = .ok chosen := by
  obtain ⟨hall, rfl⟩ := kept_eq_ok_iff.mp h
  have hagain : ∀ item ∈ items.filter (passes test), ∃ verdict, test item = .ok verdict :=
    fun item hitem => hall item (List.mem_of_mem_filter hitem)
  rw [kept_of_forall_ok hagain, List.filter_filter]
  simp only [Bool.and_self]

theorem filtered_array (test : Value → Except EvalError Value) (items : List Value) :
    filtered test (.array items) = (kept test items).map .array := by
  unfold filtered
  simp only [Builtin.itemsOf, Value.items?, Option.getD_some]
  cases kept test items <;> rfl

theorem filtered_filtered (test : Value → Except EvalError Value) (v : Value) :
    (filtered test v >>= filtered test) = filtered test v := by
  unfold filtered
  cases h : kept test (Builtin.itemsOf v) with
  | error e => rfl
  | ok chosen =>
    have hagain : kept test (Builtin.itemsOf (.array chosen)) = .ok chosen := kept_of_kept h
    simp only [bind, Except.bind, hagain]

/-- The test that comes out the other way. -/
def negated (test : Value → Except EvalError Value) (item : Value) : Except EvalError Value := do
  let verdict ← test item
  .ok (applyUnary .not verdict)

theorem passes_negated {item verdict : Value} (h : test item = .ok verdict) :
    passes (negated test) item = !passes test item := by
  have hnegated : negated test item = .ok (.bool !verdict.isTruthy) := by
    rw [negated, h]
    rfl
  rw [passes_of_ok hnegated, passes_of_ok h]
  rfl

theorem length_kept_add {chosen others : List Value} (h : kept test items = .ok chosen)
    (hothers : kept (negated test) items = .ok others) :
    chosen.length + others.length = items.length := by
  obtain ⟨hall, rfl⟩ := kept_eq_ok_iff.mp h
  obtain ⟨-, rfl⟩ := kept_eq_ok_iff.mp hothers
  have hnegated : items.filter (passes (negated test)) =
      items.filter fun item => !passes test item := by
    refine List.filter_congr fun item hitem => ?_
    obtain ⟨verdict, hverdict⟩ := hall item hitem
    exact passes_negated hverdict
  rw [hnegated, ← List.length_eq_length_filter_add]

end

theorem tolerant_of_ok {scope : Scope} {e : Expression} {v : Value} (h : evaluate scope e = .ok v) :
    tolerant scope e (evaluate scope e) = .ok v := by
  cases e with
  | name n =>
    cases hn : scope n with
    | some found => simpa [evaluate, tolerant, hn] using h
    | none => simp [evaluate, hn] at h
  | _ => exact h

namespace FilterForm

variable (form : FilterForm) (scope : Scope) (source predicate : Expression)

/-- What the predicate comes to on an item. -/
def test (item : Value) : Except EvalError Value :=
  evaluate (scope.bind form.item item) predicate

theorem evaluate_write :
    evaluate scope (form.write source predicate) =
      tolerant scope source (evaluate scope source) >>= filtered (form.test scope predicate) := by
  cases form with
  | brackets => simp only [write, evaluate]; rfl
  | arrow param => exact evaluate_call_filter scope source param predicate

theorem test_not :
    form.test scope (unary .not predicate) = negated (form.test scope predicate) := by
  funext item
  simp only [test, evaluate, negated]

theorem evaluate_write_write :
    evaluate scope (form.write (form.write source predicate) predicate) =
      evaluate scope (form.write source predicate) := by
  have htolerant : ∀ outcome, tolerant scope (form.write source predicate) outcome = outcome := by
    cases form <;> exact fun _ => rfl
  rw [form.evaluate_write scope (form.write source predicate), htolerant, form.evaluate_write,
    bind_assoc]
  simp only [filtered_filtered]

variable {scope source}

theorem evaluate_write_array {items : List Value} (h : evaluate scope source = .ok (.array items)) :
    evaluate scope (form.write source predicate) =
      (kept (form.test scope predicate) items).map .array := by
  rw [form.evaluate_write, tolerant_of_ok h, ← filtered_array]
  rfl

variable {form predicate} in
theorem kept_of_evaluate_write {items chosen : List Value}
    (hsource : evaluate scope source = .ok (.array items))
    (h : evaluate scope (form.write source predicate) = .ok (.array chosen)) :
    kept (form.test scope predicate) items = .ok chosen := by
  rw [form.evaluate_write_array predicate hsource] at h
  obtain ⟨others, hkept, he⟩ := Outcome.map_eq_ok_iff.mp h
  rw [hkept, Value.array.inj he]

end FilterForm

/-- The negation of a predicate has the same leading name. -/
theorem boundToItem_not (predicate : Expression) :
    (unary .not predicate).boundToItem = unary .not predicate.boundToItem := by
  unfold boundToItem
  rw [bindItem?]
  cases predicate.bindItem? <;> rfl

end Expression

open Expression

/-- Of the items of an array those that pass are kept, in their order and as often as they are
there, unless a test fails; a second pass changes nothing; and what a predicate and its negation
keep adds up to what there was. -/
theorem filter_keeps_passing (form : FilterForm) (scope : Scope) (source predicate : Expression) :
    let test (item : Value) := evaluate (scope.bind form.item item) predicate
    let outcome := evaluate scope (form.write source predicate)
    (∀ items, evaluate scope source = .ok (.array items) →
      ((∀ item ∈ items, ∃ verdict, test item = .ok verdict) →
        outcome = .ok (.array (items.filter (passes test)))) ∧
      ∀ before item after e, items = before ++ item :: after →
        (∀ other ∈ before, ∃ verdict, test other = .ok verdict) → test item = .error e →
          outcome = .error e) ∧
    evaluate scope (form.write (form.write source predicate) predicate) = outcome ∧
    (∀ items chosen others, evaluate scope source = .ok (.array items) →
      outcome = .ok (.array chosen) →
      evaluate scope (form.write source (.unary .not predicate)) = .ok (.array others) →
        chosen.length + others.length = items.length) ∧
    (Expression.unary .not predicate).boundToItem = .unary .not predicate.boundToItem := by
  intro test outcome
  refine ⟨fun items hsource => ?_, form.evaluate_write_write scope source predicate, ?_,
    boundToItem_not predicate⟩
  · have houtcome : outcome = (kept test items).map .array :=
      form.evaluate_write_array predicate hsource
    constructor
    · intro hall
      rw [houtcome, kept_of_forall_ok hall]
      rfl
    · rintro before item after e rfl hbefore he
      rw [houtcome, kept_of_first_error hbefore he]
      rfl
  · intro items chosen others hsource hchosen hothers
    have hothers := FilterForm.kept_of_evaluate_write hsource hothers
    rw [form.test_not] at hothers
    exact length_kept_add (FilterForm.kept_of_evaluate_write hsource hchosen) hothers

/-- Two equal rows are both kept. A row that is `null` ends the filter, whatever comes after it. -/
theorem filter_keeps_repeated :
    let row (done : Bool) : Value := .object [("done", .bool done)]
    let rows := [row true, row false, row true]
    let broken := [row true, .null, row false, .null]
    let c : Context := ⟨[("broken", .array broken), ("rows", .array rows)]⟩
    let outcome (source test : Expression) :=
      evaluate c.scope (FilterForm.brackets.write source test.boundToItem)
    outcome (.name "rows") (.name "done") = .ok (.array [row true, row true]) ∧
      outcome (.name "rows") (.unary .not (.name "done")) = .ok (.array [row false]) ∧
      [row true, row true].length + [row false].length = rows.length ∧
      outcome (.name "broken") (.name "done") = .error (.nullAccess "done") ∧
      outcome (FilterForm.brackets.write (.name "broken") (Expression.name "done").boundToItem)
        (.name "done") = .error (.nullAccess "done") := by
  intro row rows broken c outcome
  have hrows : evaluate c.scope (.name "rows") = .ok (.array rows) := rfl
  have hall (test : Value → Except EvalError Value)
      (h : ∀ done, ∃ verdict, test (row done) = .ok verdict) :
      ∀ item ∈ rows, ∃ verdict, test item = .ok verdict := by
    simp only [rows, List.forall_mem_cons]
    exact ⟨h true, h false, h true, List.forall_mem_nil _⟩
  obtain ⟨hexact, -, hparts, hnot⟩ :=
    filter_keeps_passing .brackets c.scope (.name "rows") (Expression.name "done").boundToItem
  obtain ⟨hnegated, -⟩ :=
    filter_keeps_passing .brackets c.scope (.name "rows")
      (Expression.unary .not (.name "done")).boundToItem
  obtain ⟨hfailing, hagain, -⟩ :=
    filter_keeps_passing .brackets c.scope (.name "broken") (Expression.name "done").boundToItem
  have hchosen : outcome (.name "rows") (.name "done") = .ok (.array [row true, row true]) :=
    (hexact rows hrows).1 (hall _ fun _ => ⟨_, rfl⟩)
  have hothers : outcome (.name "rows") (.unary .not (.name "done")) = .ok (.array [row false]) :=
    (hnegated rows hrows).1 (hall _ fun _ => ⟨_, rfl⟩)
  have herror : outcome (.name "broken") (.name "done") = .error (.nullAccess "done") := by
    refine (hfailing broken rfl).2 [row true] .null [row false, .null] _ rfl ?_ rfl
    exact List.forall_mem_singleton.mpr ⟨_, rfl⟩
  exact ⟨hchosen, hothers, hparts rows _ _ hrows hchosen hothers, herror, hagain.trans herror⟩

end Stagewise
