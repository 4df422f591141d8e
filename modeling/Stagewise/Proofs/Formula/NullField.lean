import Mathlib.Data.List.Basic
import Stagewise.Proofs.Formula.Noninterference
import Stagewise.Proofs.Outcome

/-! A field that holds `null` against one that is missing. Where missing input is tolerated the two
read alike, and anywhere else the missing one ends the evaluation with its name. -/

namespace Stagewise

/-- The second outcome is the first, unless the first is that the name is unknown. -/
def SameUnlessUnknown {α : Type} (n : String) (x y : Except EvalError α) : Prop :=
  x = .error (.unknownName n) ∨ y = x

namespace SameUnlessUnknown

variable {α β : Type} {n : String}

theorem refl (x : Except EvalError α) : SameUnlessUnknown n x x :=
  .inr rfl

theorem bind {x y : Except EvalError α} {f g : α → Except EvalError β}
    (h : SameUnlessUnknown n x y) (hf : ∀ a, SameUnlessUnknown n (f a) (g a)) :
    SameUnlessUnknown n (x >>= f) (y >>= g) := by
  rcases h with rfl | rfl
  · exact .inl rfl
  · cases y with
    | error e => exact .inr rfl
    | ok a => exact hf a

end SameUnlessUnknown

/-- The second scope has `null` for the name where the first has nothing, and is otherwise the
first. -/
def Scope.AddsNull (scope scope' : Scope) (n : String) : Prop :=
  ∀ m, scope' m = scope m ∨ m = n ∧ scope m = none ∧ scope' m = some .null

theorem Scope.AddsNull.bind {scope scope' : Scope} {n : String} (h : scope.AddsNull scope' n)
    (name : String) (value : Value) : (scope.bind name value).AddsNull (scope'.bind name value) n := by
  intro m
  by_cases hm : m = name
  · simp [Scope.bind, hm]
  · simpa [Scope.bind, hm] using h m

theorem Context.addsNull_insert {c : Context} {n : String} (h : c.get? n = none) :
    c.scope.AddsNull (c.insert n .null).scope n := by
  intro m
  by_cases hm : m = n
  · subst hm
    exact .inr ⟨rfl, h, c.get?_insert_self m .null⟩
  · exact .inl (c.get?_insert_of_ne .null hm)

theorem Context.addsNull_ofJson {r : Record Json} {n : String} (h : r.get? n = none) :
    (ofJson (.object r)).scope.AddsNull (ofJson (.object (r.put n .null))).scope n := by
  intro m
  simp only [scope, get?_ofJson, Json.field?]
  by_cases hm : m = n
  · subst hm
    have hput := Record.get?_put_self r m .null
    exact .inr ⟨rfl, by rw [h, Option.map_none], by rw [hput, Option.map_some, Value.ofJson]⟩
  · exact .inl (by rw [Record.get?_put_of_ne r .null hm])

theorem eq_math_of_dotted {base property : String} {rest : List Char} (hrest : '.' ∉ rest)
    (h : (base ++ "." ++ property).toList = "Math".toList ++ '.' :: rest) : base = "Math" := by
  have hsplit : "Math".toList ++ '.' :: rest = base.toList ++ '.' :: property.toList := by
    simpa using h.symm
  have hparts := (List.append_cons_inj_of_notMem (by decide) hrest).mp hsplit
  exact String.toList_inj.mp hparts.1.symm

/-- Both constants are in the namespace `Math`. -/
theorem constant?_of_ne_math {base : String} (h : base ≠ "Math") (property : String) :
    constant? (base ++ "." ++ property) = none := by
  have hpi : base ++ "." ++ property ≠ "Math.PI" := fun he =>
    h (eq_math_of_dotted (show '.' ∉ "PI".toList by decide) (congrArg String.toList he))
  have he : base ++ "." ++ property ≠ "Math.E" := fun he =>
    h (eq_math_of_dotted (show '.' ∉ "E".toList by decide) (congrArg String.toList he))
  rw [constant?, if_neg hpi, if_neg he]

namespace Expression

section

variable {scope scope' : Scope} {n : String}

theorem constantMember?_addsNull (h : scope.AddsNull scope' n) (hmath : n ≠ "Math")
    (object : Expression) (property : String) :
    constantMember? scope' object property = constantMember? scope object property := by
  cases object with
  | name base =>
    rcases h base with he | ⟨rfl, hnone, hnull⟩
    · simp only [constantMember?, he]
    · have hconstant := constant?_of_ne_math hmath property
      simp [constantMember?, hnone, hnull, hconstant]
  | _ => rfl

theorem tolerant_addsNull (h : scope.AddsNull scope' n) (e : Expression)
    {outcome outcome' : Except EvalError Value} (ho : SameUnlessUnknown n outcome outcome') :
    SameUnlessUnknown n (tolerant scope e outcome) (tolerant scope' e outcome') := by
  cases e with
  | name m =>
    rcases h m with he | ⟨-, hnone, hnull⟩
    · exact .inr (by simp only [tolerant, he])
    · exact .inr (by simp only [tolerant, hnone, hnull, Option.getD])
  | _ => exact ho

theorem kept_addsNull {test test' : Value → Except EvalError Value}
    (h : ∀ item, SameUnlessUnknown n (test item) (test' item)) (items : List Value) :
    SameUnlessUnknown n (kept test items) (kept test' items) := by
  induction items with
  | nil => exact .refl _
  | cons item rest ih => exact (h item).bind fun verdict => ih.bind fun others => .refl _

theorem filtered_addsNull {test test' : Value → Except EvalError Value}
    (h : ∀ item, SameUnlessUnknown n (test item) (test' item)) (source : Value) :
    SameUnlessUnknown n (filtered test source) (filtered test' source) :=
  (kept_addsNull h _).bind fun _ => .refl _

end

mutual

/-- By the structure of the expression. Errors are passed on as they are, so one that names the
missing field ends the whole evaluation. -/
theorem evaluate_addsNull (e : Expression) {scope scope' : Scope} {n : String} (hmath : n ≠ "Math")
    (h : scope.AddsNull scope' n) :
    SameUnlessUnknown n (evaluate scope e) (evaluate scope' e) := by
  cases e with
  | literal v => exact .refl _
  | name m =>
    rcases h m with he | ⟨rfl, hnone, -⟩
    · exact .inr (by simp only [evaluate, he])
    · exact .inl (by simp only [evaluate, hnone])
  | array items =>
    simp only [evaluate]
    exact (evaluateAll_addsNull items hmath h).bind fun values => .refl _
  | member object property =>
    have hobject := evaluate_addsNull object hmath h
    simp only [evaluate, constantMember?_addsNull h hmath]
    cases constantMember? scope object property with
    | some v => exact .refl _
    | none => exact hobject.bind fun v => .refl _
  | index object position =>
    have hobject := evaluate_addsNull object hmath h
    have hposition := evaluate_addsNull position hmath h
    simp only [evaluate]
    exact hobject.bind fun target => hposition.bind fun place => .refl _
  | projection source key =>
    have hsource := tolerant_addsNull h source (evaluate_addsNull source hmath h)
    simp only [evaluate]
    exact hsource.bind fun v => .refl _
  | filter source predicate =>
    have hsource := tolerant_addsNull h source (evaluate_addsNull source hmath h)
    have hpredicate := fun item => evaluate_addsNull predicate hmath (h.bind itemName item)
    simp only [evaluate]
    exact hsource.bind fun v => filtered_addsNull hpredicate v
  | length operand =>
    have hoperand := tolerant_addsNull h operand (evaluate_addsNull operand hmath h)
    simp only [evaluate]
    exact hoperand.bind fun v => .refl _
  | call callee args =>
    simp only [evaluate]
    by_cases hfilter : callee = "filter"
    · simp only [if_pos hfilter]
      exact evaluateFilter_addsNull args hmath h
    · simp only [if_neg hfilter]
      cases Builtin.ofName? callee with
      | none => exact .refl _
      | some f => exact (evaluateArgs_addsNull args hmath h).bind fun values => .refl _
  | lambda param body => exact .refl _
  | unary op operand =>
    simp only [evaluate]
    exact (evaluate_addsNull operand hmath h).bind fun v => .refl _
  | binary op left right =>
    have hleft := evaluate_addsNull left hmath h
    have hright := evaluate_addsNull right hmath h
    have hstrict : SameUnlessUnknown n
        (evaluate scope left >>= fun v => evaluate scope right >>= fun w => .ok (applyBinary op v w))
        (evaluate scope' left >>= fun v =>
          evaluate scope' right >>= fun w => .ok (applyBinary op v w)) :=
      hleft.bind fun v => hright.bind fun w => .refl _
    cases op with
    | and =>
      simp only [evaluate]
      refine hleft.bind fun v => ?_
      by_cases hv : v.isTruthy = true
      · simpa only [if_pos hv] using hright
      · simpa only [if_neg hv] using .refl _
    | or =>
      simp only [evaluate]
      refine hleft.bind fun v => ?_
      by_cases hv : v.isTruthy = true
      · simpa only [if_pos hv] using .refl _
      · simpa only [if_neg hv] using hright
    | _ => simpa only [evaluate] using hstrict
  | conditional test consequent alternate =>
    have hconsequent := evaluate_addsNull consequent hmath h
    have halternate := evaluate_addsNull alternate hmath h
    simp only [evaluate]
    refine (evaluate_addsNull test hmath h).bind fun v => ?_
    by_cases hv : v.isTruthy = true
    · simpa only [if_pos hv] using hconsequent
    · simpa only [if_neg hv] using halternate

theorem evaluateAll_addsNull (es : List Expression) {scope scope' : Scope} {n : String}
    (hmath : n ≠ "Math") (h : scope.AddsNull scope' n) :
    SameUnlessUnknown n (evaluateAll scope es) (evaluateAll scope' es) := by
  cases es with
  | nil => exact .refl _
  | cons e es =>
    have hes := evaluateAll_addsNull es hmath h
    exact (evaluate_addsNull e hmath h).bind fun v => hes.bind fun vs => .refl _

theorem evaluateArgs_addsNull (es : List Expression) {scope scope' : Scope} {n : String}
    (hmath : n ≠ "Math") (h : scope.AddsNull scope' n) :
    SameUnlessUnknown n (evaluateArgs scope es) (evaluateArgs scope' es) := by
  cases es with
  | nil => exact .refl _
  | cons e es =>
    have he := tolerant_addsNull h e (evaluate_addsNull e hmath h)
    have hes := evaluateArgs_addsNull es hmath h
    exact he.bind fun v => hes.bind fun vs => .refl _

theorem evaluateFilter_addsNull (es : List Expression) {scope scope' : Scope} {n : String}
    (hmath : n ≠ "Math") (h : scope.AddsNull scope' n) :
    SameUnlessUnknown n (evaluateFilter scope es) (evaluateFilter scope' es) := by
  match es with
  | [] => exact .refl _
  | [_] => exact .refl _
  | _ :: _ :: _ :: _ =>
    rw [evaluateFilter_arity _ (by simp), evaluateFilter_arity _ (by simp)]
    exact .refl _
  | [source, e] =>
    cases e with
    | lambda param body =>
      have hsource := tolerant_addsNull h source (evaluate_addsNull source hmath h)
      have hbody := fun item => evaluate_addsNull body hmath (h.bind param item)
      simp only [evaluateFilter]
      exact hsource.bind fun v => filtered_addsNull hbody v
    | _ => exact .refl _

end

end Expression

/-- What a text gives on a record without a field it also gives when the field is added as `null`. -/
theorem evaluateText_put_null {source : String} {r : Record Json} {n : String} {v : Value}
    (h : r.get? n = none) (hmath : n ≠ "Math") (hv : evaluateText source (.object r) = .ok v) :
    evaluateText source (.object (r.put n .null)) = .ok v := by
  unfold evaluateText at hv ⊢
  cases hf : Formula.parse source with
  | error e => simp [hf] at hv
  | ok f =>
    have hsame : SameUnlessUnknown n (f.evaluateJson (.object r))
        (f.evaluateJson (.object (r.put n .null))) :=
      f.expression.evaluate_addsNull hmath (Context.addsNull_ofJson h)
    rcases hsame with hunknown | hsame
    · simp [hf, hunknown] at hv
    · simpa only [hf, hsame] using hv

/-- A field `Math` is excepted, since it hides the constants. -/
theorem evaluate_insert_null :
    (∀ (e : Expression) (c : Context) (n : String), c.get? n = none → n ≠ "Math" →
      e.evaluate c.scope = .error (.unknownName n) ∨
        e.evaluate (c.insert n .null).scope = e.evaluate c.scope) ∧
    ∀ (source : String) (r : Record Json) (n : String) (v : Value), r.get? n = none → n ≠ "Math" →
      evaluateText source (.object r) = .ok v →
        evaluateText source (.object (r.put n .null)) = .ok v := by
  refine ⟨fun e c n h hmath => ?_, fun source r n v h hmath hv => ?_⟩
  · exact e.evaluate_addsNull hmath (Context.addsNull_insert h)
  · exact evaluateText_put_null h hmath hv

/-- An owner that is read as `null` once, and where nothing is left to be tested not at all. -/
theorem evaluate_without_owner :
    let source := "[String(owner), filter(tags, t => t.name == owner)]"
    let r : Record Json := [("tags", .array [])]
    let c := Context.ofJson (.object r)
    let strict := Expression.member (.name "owner") "name"
    (c.get? "owner" = none ∧ r.get? "owner" = none ∧ "owner" ≠ "Math") ∧
      (strict.evaluate c.scope = .error (.unknownName "owner") ∨
        strict.evaluate (c.insert "owner" .null).scope = strict.evaluate c.scope) ∧
      ∃ v : Value, v.toJson = .array [.text "null", .array []] ∧
        evaluateText source (.object r) = .ok v ∧
        evaluateText source (.object (r.put "owner" .null)) = .ok v := by
  intro source r c strict
  have hcontext : c.get? "owner" = none := rfl
  have hrecord : r.get? "owner" = none := rfl
  have hmath : "owner" ≠ "Math" := by decide
  have hvalue : (evaluateText source (.object r)).toOption.map Value.toJson =
      some (.array [.text "null", .array []]) := by
    decide +kernel
  obtain ⟨v, hv, hjson⟩ := Option.map_eq_some_iff.mp hvalue
  have hv : evaluateText source (.object r) = .ok v := Outcome.toOption_eq_some_iff.mp hv
  obtain ⟨hexpression, htext⟩ := evaluate_insert_null
  exact ⟨⟨hcontext, hrecord, hmath⟩, hexpression strict c "owner" hcontext hmath, v, hjson, hv,
    htext source r "owner" v hrecord hmath hv⟩

end Stagewise
