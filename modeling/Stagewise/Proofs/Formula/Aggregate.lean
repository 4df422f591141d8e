import Stagewise.Proofs.Formula.LongForm

/-! Aggregates with a key. A key is read from each item while its number is looked for, and a
projection reads it before that; the fields that are no numbers are skipped either way, and both
leave as many items as there were. -/

namespace Stagewise

namespace Builtin

/-- The functions that make one number of those in an array. -/
def aggregates : List Builtin :=
  [sum, avg, min, max]

theorem ofName?_name (f : Builtin) : ofName? f.name = some f := by
  cases f <;> decide

theorem name_ne_filter (f : Builtin) : f.name ≠ "filter" := by
  cases f <;> decide

open Expression in
theorem itemsOf_projected (key : String) (v : Value) :
    itemsOf (projected key v) = (itemsOf v).map fun item => item.field key :=
  rfl

theorem summands_map_field (key : String) (items : List Value) :
    summands (items.map fun item => item.field key) none = summands items (some key) :=
  List.filterMap_map

open Expression in
theorem summands_projected (key : String) (v : Value) :
    summands (itemsOf (projected key v)) none = summands (itemsOf v) (some key) := by
  rw [itemsOf_projected, summands_map_field]

section

variable {f : Builtin}

open Expression in
/-- The average divides by the number of items, which a projection does not change. -/
theorem result_projected (hf : f ∈ aggregates) (key : String) (v : Value) :
    f.result [projected key v] = f.result [v, .text key] := by
  have hsummands := summands_projected key v
  simp only [aggregates, List.mem_cons, List.not_mem_nil, or_false] at hf
  rcases hf with rfl | rfl | rfl | rfl
  · exact congrArg (fun xs => Value.number (total xs)) hsummands
  · have hitems := itemsOf_projected key v
    have hkey : keyOf [v, .text key][1]? = some key := rfl
    have hnone : keyOf [projected key v][1]? = none := rfl
    simp only [result, List.headD_cons, hkey, hnone, hsummands]
    rw [hitems]
    cases itemsOf v with
    | nil => rfl
    | cons item rest => simp only [List.map_cons, List.length_cons, List.length_map]
  · exact congrArg (fun xs => Value.number (extreme lesser xs)) hsummands
  · exact congrArg (fun xs => Value.number (extreme greater xs)) hsummands

theorem apply_of_aggregate (hf : f ∈ aggregates) {args : List Value}
    (hargs : args.length = 1 ∨ args.length = 2) : f.apply args = .ok (f.result args) := by
  have harity : f.arityError? args.length = none := by
    simp only [aggregates, List.mem_cons, List.not_mem_nil, or_false] at hf
    rcases hf with rfl | rfl | rfl | rfl <;> rcases hargs with h | h <;> rw [h] <;> rfl
  simp only [apply, harity]

end

end Builtin

namespace Expression

variable {scope : Scope}

theorem evaluate_call_builtin (f : Builtin) (args : List Expression) :
    evaluate scope (call f.name args) = evaluateArgs scope args >>= f.apply := by
  simp only [evaluate, if_neg f.name_ne_filter, f.ofName?_name]

theorem evaluateArgs_singleton (e : Expression) :
    evaluateArgs scope [e] = (tolerant scope e (evaluate scope e)).map fun v => [v] := by
  simp only [evaluateArgs]
  cases tolerant scope e (evaluate scope e) <;> rfl

variable {f : Builtin}

theorem evaluate_keyed (hf : f ∈ Builtin.aggregates) (source : Expression) (key : String) :
    evaluate scope (call f.name [source, literal (.text key)]) =
      (tolerant scope source (evaluate scope source)).map fun v => f.result [v, .text key] := by
  rw [evaluate_call_builtin]
  simp only [evaluateArgs, evaluate]
  cases tolerant scope source (evaluate scope source) with
  | error e => rfl
  | ok v => exact Builtin.apply_of_aggregate hf (.inr rfl)

/-- The aggregate of an argument that comes to the projection of a source. -/
theorem evaluate_of_projected (hf : f ∈ Builtin.aggregates) {source arg : Expression}
    {key : String} (h : tolerant scope arg (evaluate scope arg) =
      tolerant scope source (evaluate scope source) >>= fun v => .ok (projected key v)) :
    evaluate scope (call f.name [arg]) =
      evaluate scope (call f.name [source, literal (.text key)]) := by
  rw [evaluate_call_builtin, evaluateArgs_singleton, h, evaluate_keyed hf]
  cases tolerant scope source (evaluate scope source) with
  | error e => rfl
  | ok v =>
    have happly : f.apply [projected key v] = .ok (f.result [v, .text key]) := by
      rw [Builtin.apply_of_aggregate hf (.inl rfl), Builtin.result_projected hf]
    exact happly

end Expression

open Expression

/-- With a key an aggregate comes to what it does over a projection, or a map, of the key, whatever
the source comes to, an error or a missing field among it. -/
theorem evaluate_keyed_aggregate {f : Builtin} (hf : f ∈ Builtin.aggregates) (scope : Scope)
    (source : Expression) (key : String) :
    let keyed := evaluate scope (call f.name [source, literal (.text key)])
    evaluate scope (call f.name [projection source key]) = keyed ∧
      evaluate scope (call f.name [call "map" [source, literal (.text key)]]) = keyed := by
  constructor
  · refine evaluate_of_projected hf ?_
    simp only [tolerant, evaluate]
  · exact evaluate_of_projected hf (evaluate_call_map scope source key)

/-- Texts and truth values count, and whatever else has no number is skipped. -/
theorem max_of_prices :
    let rows : Json := .array [.object [("price", .int 2)], .object [("price", .text " 3.5 ")],
      .object [("price", .bool true)], .object [("price", .array [.int 9])],
      .object [("price", .null)], .object [("cost", .int 9)], .int 9]
    let c := Context.ofJson (.object [("rows", rows)])
    let value (args : List Expression) := evaluate c.scope (call Builtin.max.name args)
    Builtin.max ∈ Builtin.aggregates ∧
      (value [name "rows", literal (.text "price")]).toOption.map Value.toJson = some (.float 3.5) ∧
      value [projection (name "rows") "price"] = value [name "rows", literal (.text "price")] ∧
      value [call "map" [name "rows", literal (.text "price")]] =
        value [name "rows", literal (.text "price")] := by
  intro rows c value
  have hmax : Builtin.max ∈ Builtin.aggregates := by decide
  have hvalue : (value [name "rows", literal (.text "price")]).toOption.map Value.toJson =
      some (.float 3.5) := by
    decide +kernel
  exact ⟨hmax, hvalue, evaluate_keyed_aggregate hmax c.scope (name "rows") "price"⟩

end Stagewise
