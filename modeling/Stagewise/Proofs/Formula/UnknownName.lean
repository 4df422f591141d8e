import Stagewise.Proofs.Formula.Names

/-! Names that are unknown. An evaluation that fails with an unknown name read it where nothing
binds it and the record does not have it, so the name is one of the fields that the formula reports
and is written in its text. -/

namespace Stagewise

/-- A name that the outcome says is unknown is one of these. -/
def Blames {α : Type} (P : String → Prop) (x : Except EvalError α) : Prop :=
  ∀ n, x = .error (.unknownName n) → P n

namespace Blames

variable {α β : Type} {P Q : String → Prop}

theorem ok (a : α) : Blames P (.ok a : Except EvalError α) := by
  rintro n ⟨⟩

theorem bind {x : Except EvalError α} {f : α → Except EvalError β} (h : Blames P x)
    (hf : ∀ a, Blames P (f a)) : Blames P (x >>= f) := by
  cases x with
  | error e =>
    rintro n ⟨⟩
    exact h n rfl
  | ok a => exact hf a

theorem mono {x : Except EvalError α} (h : Blames P x) (hPQ : ∀ n, P n → Q n) : Blames Q x :=
  fun n hn => hPQ n (h n hn)

end Blames

/-- The scope has a value for each of the names. -/
def Scope.Has (scope : Scope) (bound : List String) : Prop :=
  ∀ n ∈ bound, (scope n).isSome = true

theorem Scope.Has.bind {scope : Scope} {bound : List String} (h : scope.Has bound) (name : String)
    (value : Value) : (scope.bind name value).Has (name :: bound) := by
  intro n hn
  by_cases hname : n = name
  · simp [Scope.bind, hname]
  · have hbound : n ∈ bound := by simpa [hname] using hn
    simp [Scope.bind, hname, h n hbound]

theorem Builtin.apply_blames {P : String → Prop} (f : Builtin) (args : List Value) :
    Blames P (f.apply args) := by
  intro n h
  unfold apply arityError? at h
  grind

namespace Expression

/-- A name that is read from outside and is not there. -/
def Missing (scope : Scope) (free : List String) (n : String) : Prop :=
  n ∈ free ∧ scope n = none

section

variable {scope : Scope} {free : List String} {P : String → Prop}

theorem Missing.of_bind {name : String} {value : Value} (n : String)
    (h : Missing (scope.bind name value) free n) : Missing scope free n := by
  refine ⟨h.1, ?_⟩
  have hnone := h.2
  by_cases hn : n = name
  · simp [Scope.bind, hn] at hnone
  · simpa [Scope.bind, hn] using hnone

theorem memberOf_blames (property : String) (v : Value) : Blames P (memberOf property v) := by
  cases v <;> rintro n ⟨⟩

theorem itemAt_blames (place v : Value) : Blames P (itemAt place v) := by
  cases v <;> rintro n ⟨⟩

theorem lengthOf_blames (v : Value) : Blames P (lengthOf v) := by
  intro n h
  unfold lengthOf at h
  grind

theorem tolerant_blames {e : Expression} {outcome : Except EvalError Value}
    (h : Blames P outcome) : Blames P (tolerant scope e outcome) := by
  cases e with
  | name m => exact .ok _
  | _ => exact h

theorem filtered_blames {test : Value → Except EvalError Value} (h : ∀ item, Blames P (test item))
    (source : Value) : Blames P (filtered test source) := by
  have hkept : ∀ items, Blames P (kept test items) := by
    intro items
    induction items with
    | nil => exact .ok _
    | cons item rest ih => exact (h item).bind fun verdict => ih.bind fun others => .ok _
  exact (hkept _).bind fun items => .ok _

end

section

variable {free : List String}

mutual

/-- By the structure of the expression. What a filter or an arrow function binds is there in each of
its tests, so a name that is missing in a test is missing outside. -/
theorem evaluate_blames (e : Expression) {bound : List String} {scope : Scope}
    (h : scope.Has bound) (hs : freeNames bound e ⊆ free) :
    Blames (Missing scope free) (evaluate scope e) := by
  cases e with
  | literal v => exact .ok _
  | name m =>
    intro n hn
    cases hm : scope m with
    | some v => simp [evaluate, hm] at hn
    | none =>
      obtain rfl : m = n := by simpa [evaluate, hm] using hn
      have hfree : m ∉ bound := fun hmem => by simpa [hm] using h m hmem
      exact ⟨hs (by simp [freeNames, hfree]), hm⟩
  | array items =>
    simp only [evaluate]
    exact (evaluateAll_blames items h hs).bind fun values => .ok _
  | member object property =>
    simp only [evaluate]
    cases constantMember? scope object property with
    | some v => exact .ok _
    | none => exact (evaluate_blames object h hs).bind fun v => memberOf_blames property v
  | index object position =>
    obtain ⟨hobject, hposition⟩ := List.append_subset.mp hs
    have hobject := evaluate_blames object h hobject
    have hposition := evaluate_blames position h hposition
    simp only [evaluate]
    exact hobject.bind fun target => hposition.bind fun place => itemAt_blames place target
  | projection source key =>
    simp only [evaluate]
    exact (tolerant_blames (evaluate_blames source h hs)).bind fun v => .ok _
  | filter source predicate =>
    obtain ⟨hsource, hpredicate⟩ := List.append_subset.mp hs
    have hsource := evaluate_blames source h hsource
    have htest := fun item =>
      (evaluate_blames predicate (h.bind itemName item) hpredicate).mono Missing.of_bind
    simp only [evaluate]
    exact (tolerant_blames hsource).bind fun v => filtered_blames htest v
  | length operand =>
    simp only [evaluate]
    exact (tolerant_blames (evaluate_blames operand h hs)).bind fun v => lengthOf_blames v
  | call callee args =>
    simp only [evaluate]
    by_cases hfilter : callee = "filter"
    · simp only [if_pos hfilter]
      exact evaluateFilter_blames args h hs
    · simp only [if_neg hfilter]
      cases Builtin.ofName? callee with
      | none => rintro n ⟨⟩
      | some f => exact (evaluateArgs_blames args h hs).bind fun values => f.apply_blames values
  | lambda param body => rintro n ⟨⟩
  | unary op operand =>
    simp only [evaluate]
    exact (evaluate_blames operand h hs).bind fun v => .ok _
  | binary op left right =>
    obtain ⟨hleft, hright⟩ := List.append_subset.mp hs
    have hleft := evaluate_blames left h hleft
    have hright := evaluate_blames right h hright
    have hstrict := hleft.bind fun v => hright.bind fun w => .ok (applyBinary op v w)
    cases op with
    | and =>
      simp only [evaluate]
      refine hleft.bind fun v => ?_
      split
      · exact hright
      · exact .ok _
    | or =>
      simp only [evaluate]
      refine hleft.bind fun v => ?_
      split
      · exact .ok _
      · exact hright
    | _ => simpa only [evaluate] using hstrict
  | conditional test consequent alternate =>
    obtain ⟨hfirst, halternate⟩ := List.append_subset.mp hs
    obtain ⟨htest, hconsequent⟩ := List.append_subset.mp hfirst
    have hconsequent := evaluate_blames consequent h hconsequent
    have halternate := evaluate_blames alternate h halternate
    simp only [evaluate]
    refine (evaluate_blames test h htest).bind fun v => ?_
    split
    · exact hconsequent
    · exact halternate

theorem evaluateAll_blames (es : List Expression) {bound : List String} {scope : Scope}
    (h : scope.Has bound) (hs : freeNamesAll bound es ⊆ free) :
    Blames (Missing scope free) (evaluateAll scope es) := by
  cases es with
  | nil => exact .ok _
  | cons e es =>
    obtain ⟨he, hes⟩ := List.append_subset.mp hs
    have hes := evaluateAll_blames es h hes
    exact (evaluate_blames e h he).bind fun v => hes.bind fun vs => .ok _

theorem evaluateArgs_blames (es : List Expression) {bound : List String} {scope : Scope}
    (h : scope.Has bound) (hs : freeNamesAll bound es ⊆ free) :
    Blames (Missing scope free) (evaluateArgs scope es) := by
  cases es with
  | nil => exact .ok _
  | cons e es =>
    obtain ⟨he, hes⟩ := List.append_subset.mp hs
    have hes := evaluateArgs_blames es h hes
    exact (tolerant_blames (evaluate_blames e h he)).bind fun v => hes.bind fun vs => .ok _

theorem evaluateFilter_blames (es : List Expression) {bound : List String} {scope : Scope}
    (h : scope.Has bound) (hs : freeNamesAll bound es ⊆ free) :
    Blames (Missing scope free) (evaluateFilter scope es) := by
  match es, hs with
  | [], _ | [_], _ => rintro n ⟨⟩
  | _ :: _ :: _ :: _, _ =>
    rw [evaluateFilter_arity _ (by simp)]
    rintro n ⟨⟩
  | [source, e], hs =>
    cases e with
    | lambda param body =>
      obtain ⟨hsource, hbody⟩ := List.append_subset.mp hs
      have hsource := evaluate_blames source h hsource
      have htest := fun item =>
        (evaluate_blames body (h.bind param item) (List.append_subset.mp hbody).1).mono
          Missing.of_bind
      simp only [evaluateFilter]
      exact (tolerant_blames hsource).bind fun v => filtered_blames htest v
    | _ => rintro n ⟨⟩

end

end

end Expression

namespace Formula

theorem mem_referencedFields_of_unknownName {f : Formula} {c : Context} {n : String}
    (h : f.evaluate c = .error (.unknownName n)) : n ∈ f.referencedFields ∧ c.get? n = none := by
  have hbound : c.scope.Has [] := by simp [Scope.Has]
  obtain ⟨hfree, hnone⟩ := f.expression.evaluate_blames hbound (List.Subset.refl _) n h
  exact ⟨Expression.mem_referencedFields.mpr hfree, hnone⟩

end Formula

/-- On formulas that have been read. The item of a filter is never to blame, nor is a name that
arrow functions alone bind, since neither is among the fields that a formula reports. -/
theorem unknownName_missing :
    (∀ source f c n, Formula.parse source = .ok f →
      f.evaluate c = .error (.unknownName n) →
        n ∈ f.referencedFields ∧ c.get? n = none ∧ n ≠ Expression.itemName ∧
          ∃ tokens, Token.ofText source = .ok tokens ∧ Grammar.Writes tokens n) ∧
    ∀ source f c, Formula.parse source = .ok f →
      (∀ n ∈ f.referencedFields, (c.get? n).isSome = true) →
        ∀ n, f.evaluate c ≠ .error (.unknownName n) := by
  refine ⟨fun source f c n hf h => ?_, fun source f c hf hall n h => ?_⟩
  · obtain ⟨hfield, hnone⟩ := Formula.mem_referencedFields_of_unknownName h
    have hitem : n ≠ Expression.itemName := fun he =>
      (Formula.hygienic_of_parse hf).itemsBoundOnce.fields (he ▸ hfield)
    have hname := Expression.mem_names_of_mem_freeNames
      (Expression.mem_referencedFields.mp hfield)
    exact ⟨hfield, hnone, hitem, (Formula.writes_of_parse hf hname).resolve_left hitem⟩
  · obtain ⟨hfield, hnone⟩ := Formula.mem_referencedFields_of_unknownName h
    simpa [hnone] using hall n hfield

def unknownName? : Except EvalError Value → Option String
  | .error (.unknownName n) => some n
  | _ => none

theorem unknownName?_eq_some_iff {x : Except EvalError Value} {n : String} :
    unknownName? x = some n ↔ x = .error (.unknownName n) := by
  unfold unknownName?
  split <;> simp_all

/-- In the predicate of a filter inside another one the name `least` is to blame, unless the record
has it. -/
theorem unknownName_nested :
    let source := "orders[items[qty > least]]"
    let orders : Json := .array [.ofFields [("items", .array [.ofFields [("qty", .text "2")]])]]
    let c := Context.ofJson (.ofFields [("orders", orders)])
    let d := Context.ofJson (.ofFields [("least", .text "1"), ("orders", orders)])
    ∃ f, Formula.parse source = .ok f ∧ f.evaluate c = .error (.unknownName "least") ∧
      ("least" ∈ f.referencedFields ∧ c.get? "least" = none ∧ "least" ≠ Expression.itemName ∧
        ∃ tokens, Token.ofText source = .ok tokens ∧ Grammar.Writes tokens "least") ∧
      (∀ n ∈ f.referencedFields, (d.get? n).isSome = true) ∧
      ∀ n, f.evaluate d ≠ .error (.unknownName n) := by
  intro source orders c d
  have hrun : (Formula.parse source).toOption.map (fun f =>
      (f.referencedFields, unknownName? (f.evaluate c))) =
        some (["least", "orders"], some "least") := by
    decide +kernel
  obtain ⟨f, hf, hrun⟩ := Option.map_eq_some_iff.mp hrun
  obtain ⟨hfields, hunknown⟩ := Prod.mk.inj hrun
  have hf := Outcome.toOption_eq_some_iff.mp hf
  have herror := unknownName?_eq_some_iff.mp hunknown
  have hall : ∀ n ∈ f.referencedFields, (d.get? n).isSome = true := by
    rw [hfields]
    decide +kernel
  exact ⟨f, hf, herror, unknownName_missing.1 source f c "least" hf herror, hall,
    unknownName_missing.2 source f d hf hall⟩

end Stagewise
