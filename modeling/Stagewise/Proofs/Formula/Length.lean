import Stagewise.Proofs.Formula.Filtering
import Stagewise.Proofs.Formula.Renaming

/-! Lengths. What is null or not there has the length zero, a text has its characters and an array
its items; what fails, fails, and a value of any other type is an error. The untrue among those
values, `false`, the zeros and NaN, are taken for null. -/

namespace Stagewise

/-- Untrue, but neither null nor a text. -/
def Value.isVoid : Value → Bool
  | bool b => !b
  | number x => x == 0.0 || x.isNaN
  | _ => false

/-- Truth values, numbers and objects. -/
inductive Value.Lengthless : Value → Prop where
  | bool (b : Bool) : Lengthless (.bool b)
  | number (x : Float) : Lengthless (.number x)
  | object (fields : List (String × Value)) : Lengthless (.object fields)

theorem Value.length_cases (v : Value) :
    v = .null ∨ (∃ s, v = .text s) ∨ (∃ items, v = .array items) ∨ v.Lengthless := by
  cases v with
  | null => exact .inl rfl
  | text s => exact .inr (.inl ⟨s, rfl⟩)
  | array items => exact .inr (.inr (.inl ⟨items, rfl⟩))
  | bool b => exact .inr (.inr (.inr (.bool b)))
  | number x => exact .inr (.inr (.inr (.number x)))
  | object fields => exact .inr (.inr (.inr (.object fields)))

namespace Expression

/-- The outcomes that the length of an expression is to have in a scope. -/
inductive LengthIs (scope : Scope) (x : Expression) : Except EvalError Value → Prop where
  | missing {n : String} (hx : x = name n) (hn : scope n = none) :
    LengthIs scope x (.ok (.number 0.0))
  | null (h : evaluate scope x = .ok .null) : LengthIs scope x (.ok (.number 0.0))
  | text {s : String} (h : evaluate scope x = .ok (.text s)) :
    LengthIs scope x (.ok (.number (Double.ofInt s.toList.length)))
  | array {items : List Value} (h : evaluate scope x = .ok (.array items)) :
    LengthIs scope x (.ok (.number (Double.ofInt items.length)))
  | other {v : Value} (h : evaluate scope x = .ok v) (hv : v.Lengthless) :
    LengthIs scope x (.error (.noLength v.typeName))
  | failed {e : EvalError} (h : evaluate scope x = .error e)
    (hx : ∀ n, x = name n → scope n ≠ none) : LengthIs scope x (.error e)

/-- The expression comes to a value that is taken for null. -/
def ComesToVoid (scope : Scope) (x : Expression) : Prop :=
  ∃ v, evaluate scope x = .ok v ∧ v.isVoid = true

section

variable {scope : Scope} {x : Expression} {v : Value} {test test' : Value → Except EvalError Value}
  {items : List Value}

theorem LengthIs.unique {r r' : Except EvalError Value} (h : LengthIs scope x r)
    (h' : LengthIs scope x r') : r = r' := by
  have hmissing {n : String} (hx : x = name n) (hn : scope n = none) :
      evaluate scope x = .error (.unknownName n) := by
    rw [hx, evaluate, hn]
  cases h <;> cases h' <;> grind [Value.Lengthless]

theorem isTruthy_eq_not_isVoid (h : v.Lengthless) : v.isTruthy = !v.isVoid := by
  cases h with
  | bool b => exact (Bool.not_not b).symm
  | number x => exact (Bool.not_or ..).symm
  | object fields => rfl

theorem lengthOf_lengthless (h : v.Lengthless) :
    lengthOf v = if v.isVoid then .ok (.number 0.0) else .error (.noLength v.typeName) := by
  have htruthy := isTruthy_eq_not_isVoid h
  cases h <;> simp only [lengthOf, htruthy] <;> cases Value.isVoid _ <;> rfl

theorem lengthless_of_isVoid (h : v.isVoid = true) : v.Lengthless := by
  cases v with
  | bool b => exact .bool b
  | number x => exact .number x
  | _ => cases h

theorem evaluate_length_of_ok (h : evaluate scope x = .ok v) :
    evaluate scope (length x) = lengthOf v := by
  rw [evaluate, tolerant_of_ok h]
  rfl

theorem evaluate_length_of_error {e : EvalError} (h : evaluate scope x = .error e)
    (hx : ∀ n, x = name n → scope n ≠ none) : evaluate scope (length x) = .error e := by
  have hname : ∀ n, x ≠ name n := by
    rintro n rfl
    obtain ⟨v, hv⟩ := Option.ne_none_iff_exists'.mp (hx n rfl)
    rw [evaluate, hv] at h
    cases h
  rw [evaluate, tolerant_of_ne_name hname, h]
  rfl

theorem evaluate_length_of_missing {n : String} (hn : scope n = none) :
    evaluate scope (length (name n)) = .ok (.number 0.0) := by
  rw [evaluate, tolerant, hn]
  rfl

theorem lengthIs_evaluate (h : ¬ComesToVoid scope x) :
    LengthIs scope x (evaluate scope (length x)) := by
  cases hx : evaluate scope x with
  | ok v =>
    have hvoid : v.isVoid = false := Bool.eq_false_iff.mpr fun hv => h ⟨v, hx, hv⟩
    rw [evaluate_length_of_ok hx]
    obtain rfl | ⟨s, rfl⟩ | ⟨items, rfl⟩ | hv := v.length_cases
    · exact .null hx
    · exact .text hx
    · exact .array hx
    · rw [lengthOf_lengthless hv, hvoid]
      exact .other hx hv
  | error e =>
    by_cases hmissing : ∃ n, x = name n ∧ scope n = none
    · obtain ⟨n, rfl, hn⟩ := hmissing
      rw [evaluate_length_of_missing hn]
      exact .missing rfl hn
    · have hname : ∀ n, x = name n → scope n ≠ none := fun n hn hnone => hmissing ⟨n, hn, hnone⟩
      rw [evaluate_length_of_error hx hname]
      exact .failed hx hname

theorem evaluate_length_of_void (h : ComesToVoid scope x) :
    evaluate scope (length x) = .ok (.number 0.0) := by
  obtain ⟨v, hx, hvoid⟩ := h
  rw [evaluate_length_of_ok hx, lengthOf_lengthless (lengthless_of_isVoid hvoid), hvoid]
  rfl

theorem exists_number_of_evaluate_length (h : evaluate scope (length x) = .ok v) :
    ∃ n, v = .number n := by
  rw [evaluate] at h
  obtain ⟨w, -, h⟩ := Outcome.bind_eq_ok_iff.mp h
  unfold lengthOf at h
  split at h
  · exact ⟨_, (Except.ok.inj h).symm⟩
  · exact ⟨_, (Except.ok.inj h).symm⟩
  · split at h
    · cases h
    · exact ⟨_, (Except.ok.inj h).symm⟩

theorem evaluate_length_length (h : evaluate scope (length x) = .ok v) (hvoid : v.isVoid = false) :
    evaluate scope (length (length x)) = .error (.noLength "number") := by
  obtain ⟨n, rfl⟩ := exists_number_of_evaluate_length h
  rw [evaluate_length_of_ok h, lengthOf_lengthless (.number n), hvoid]
  rfl

theorem kept_congr (h : ∀ item ∈ items, test item = test' item) :
    kept test items = kept test' items := by
  induction items with
  | nil => rfl
  | cons item rest ih =>
    obtain ⟨hitem, hrest⟩ := List.forall_mem_cons.mp h
    rw [kept, kept, hitem, ih hrest]

end

end Expression

open Expression

/-- Unless its operand comes to `false`, a zero or NaN a length is what it is to be, in any scope: so
it is in the predicate of a filter, as an argument and as the operand of a length. -/
theorem evaluate_length (x : Expression) :
    (∀ scope, ¬ComesToVoid scope x → LengthIs scope x (evaluate scope (length x))) ∧
    (∀ scope (form : FilterForm) source items (outcome : Value → Except EvalError Value),
      evaluate scope source = .ok (.array items) →
      (∀ item ∈ items, ¬ComesToVoid (scope.bind form.item item) x ∧
        LengthIs (scope.bind form.item item) x (outcome item)) →
      evaluate scope (form.write source (length x)) = (kept outcome items).map .array) ∧
    (∀ scope others outcome, ¬ComesToVoid scope x → LengthIs scope x outcome →
      evaluateArgs scope (length x :: others) =
        outcome >>= fun v => evaluateArgs scope others >>= fun vs => .ok (v :: vs)) ∧
    (∀ scope v, evaluate scope (length x) = .ok v → v.isVoid = false →
      evaluate scope (length (length x)) = .error (.noLength "number")) ∧
    ∀ scope v, evaluate scope x = .ok v → v.Lengthless →
      (evaluate scope (length x) = .ok (.number 0.0) ↔ v.isVoid = true) := by
  refine ⟨fun scope => lengthIs_evaluate, ?_, ?_, fun scope v => evaluate_length_length, ?_⟩
  · intro scope form source items outcome hsource houtcome
    have htest : ∀ item ∈ items, form.test scope (length x) item = outcome item := by
      intro item hitem
      obtain ⟨hvoid, hlength⟩ := houtcome item hitem
      exact (lengthIs_evaluate hvoid).unique hlength
    rw [form.evaluate_write_array (length x) hsource, kept_congr htest]
  · intro scope others outcome hvoid hlength
    rw [← (lengthIs_evaluate hvoid).unique hlength]
    rfl
  · intro scope v hx hv
    rw [evaluate_length_of_ok hx, lengthOf_lengthless hv]
    cases v.isVoid <;> simp

/-- Rows are kept for their tags, and a row without any counts as one that has none. As the operand
of another length the length of the rows is an error. -/
theorem evaluate_length_of_tags :
    let row (tags : Value) : Value := .object [("tags", tags)]
    let rows := [row (.text "é"), row .null]
    let c : Context := ⟨[("rows", .array rows)]⟩
    let tags := member (name "row") "tags"
    let count : Except EvalError Value := .ok (.number (Double.ofInt rows.length))
    evaluate c.scope ((FilterForm.arrow "row").write (name "rows") (length tags)) =
        .ok (.array [row (.text "é")]) ∧
      LengthIs c.scope (name "rows") (evaluate c.scope (length (name "rows"))) ∧
      evaluateArgs c.scope [length (name "rows")] = count.map (fun v => [v]) ∧
      evaluate c.scope (length (length (name "rows"))) = .error (.noLength "number") := by
  intro row rows c tags count
  have hrows : evaluate c.scope (name "rows") = .ok (.array rows) := rfl
  have hvoid : ¬ComesToVoid c.scope (name "rows") := by
    rintro ⟨v, hv, hvoid⟩
    obtain rfl := Except.ok.inj (hrows.symm.trans hv)
    cases hvoid
  have hlength : LengthIs c.scope (name "rows") count := .array hrows
  have hcount := (evaluate_length (name "rows")).1 c.scope hvoid
  have hargs := (evaluate_length (name "rows")).2.2.1 c.scope [] count hvoid hlength
  have hagain := (evaluate_length (name "rows")).2.2.2.1 c.scope (.number (Double.ofInt rows.length))
    (hcount.unique hlength) (by decide +kernel)
  have htags (v : Value) : evaluate (c.scope.bind "row" (row v)) tags = .ok v := rfl
  have hsolid {v : Value} (hv : v.isVoid = false) :
      ¬ComesToVoid (c.scope.bind "row" (row v)) tags := by
    rintro ⟨w, hw, hvoid⟩
    obtain rfl := Except.ok.inj ((htags v).symm.trans hw)
    exact Bool.eq_false_iff.mp hv hvoid
  let outcome (item : Value) : Except EvalError Value :=
    .ok (.number (if (item.field "tags").isTruthy then Double.ofInt "é".toList.length else 0.0))
  have hitems : ∀ item ∈ rows, ¬ComesToVoid (c.scope.bind "row" item) tags ∧
      LengthIs (c.scope.bind "row" item) tags (outcome item) :=
    List.forall_mem_cons.mpr ⟨⟨hsolid rfl, .text (htags (.text "é"))⟩,
      List.forall_mem_singleton.mpr ⟨hsolid rfl, .null (htags .null)⟩⟩
  have hfilter := (evaluate_length tags).2.1 c.scope (.arrow "row") (name "rows") rows outcome hrows
    hitems
  have hkept : kept outcome rows = .ok [row (.text "é")] := by
    have hfirst : passes outcome (row (.text "é")) = true := by decide +kernel
    have hlast : passes outcome (row .null) = false := by decide +kernel
    have hall : ∀ item ∈ rows, ∃ verdict, outcome item = .ok verdict := fun _ _ => ⟨_, rfl⟩
    rw [kept_of_forall_ok hall, List.filter_cons_of_pos hfirst,
      List.filter_cons_of_neg (Bool.eq_false_iff.mp hlast), List.filter_nil]
  refine ⟨?_, hcount, hargs, hagain⟩
  rw [hfilter, hkept]
  rfl

/-- A truth value, which has no length, has the length zero when it is `false`. -/
theorem evaluate_length_of_false :
    let c := Context.ofJson (.object [("paid", .bool false)])
    evaluate c.scope (name "paid") = .ok (.bool false) ∧
      LengthIs c.scope (name "paid") (.error (.noLength "boolean")) ∧
      evaluate c.scope (length (name "paid")) = .ok (.number 0.0) ∧
      ¬LengthIs c.scope (name "paid") (evaluate c.scope (length (name "paid"))) := by
  intro c
  have hpaid : evaluate c.scope (name "paid") = .ok (.bool false) := rfl
  have hwanted : LengthIs c.scope (name "paid") (.error (.noLength "boolean")) :=
    .other hpaid (.bool false)
  have hzero : evaluate c.scope (length (name "paid")) = .ok (.number 0.0) :=
    evaluate_length_of_void ⟨_, hpaid, rfl⟩
  refine ⟨hpaid, hwanted, hzero, fun h => ?_⟩
  rw [hzero] at h
  cases h.unique hwanted

end Stagewise
