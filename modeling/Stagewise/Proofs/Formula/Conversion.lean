import Stagewise.Formula.Value
import Stagewise.Proofs.Number.Whole

/-! What becomes of a JSON value that formulas take in and give back. Its numbers turn into doubles,
and those that are whole and not too great are written as whole numbers again. Nothing else changes,
and going the same way once more changes nothing at all. -/

namespace Stagewise

namespace Json

theorem induct {P : Json → Prop} (null : P .null) (bool : ∀ b, P (.bool b)) (int : ∀ i, P (.int i))
    (float : ∀ x, P (.float x)) (text : ∀ s, P (.text s))
    (array : ∀ items, (∀ item ∈ items, P item) → P (.array items))
    (object : ∀ fields, (∀ field ∈ fields, P field.2) → P (.object fields)) : ∀ j, P j
  | .null => null
  | .bool b => bool b
  | .int i => int i
  | .float x => float x
  | .text s => text s
  | .array items => array items fun item _ => induct null bool int float text array object item
  | .object fields =>
    object fields fun ⟨_, value⟩ _ => induct null bool int float text array object value
decreasing_by
  · have hmem := List.sizeOf_lt_of_mem ‹_›
    simp only [Json.array.sizeOf_spec]
    omega
  · have hmem := List.sizeOf_lt_of_mem ‹_›
    simp only [Prod.mk.sizeOf_spec, Json.object.sizeOf_spec] at *
    omega

/-- The numbers in the value are such as JSON holds: whole ones that fit a signed or unsigned word
of 64 bits, and finite doubles. -/
inductive Fits : Json → Prop
  | null : Fits .null
  | bool (b : Bool) : Fits (.bool b)
  | int {i : Int} (low : -2 ^ 63 ≤ i) (high : i < 2 ^ 64) : Fits (.int i)
  | float {x : Float} (finite : x.isFinite = true) : Fits (.float x)
  | text (s : String) : Fits (.text s)
  | array {items : List Json} (h : ∀ item ∈ items, item.Fits) : Fits (.array items)
  | object {fields : List (String × Json)} (h : ∀ field ∈ fields, field.2.Fits) :
      Fits (.object fields)

mutual

/-- The value with nothing told of its numbers but where they are. -/
def outline : Json → Json
  | .null => .null
  | .bool b => .bool b
  | .int _ | .float _ => .int 0
  | .text s => .text s
  | .array items => .array (outlineItems items)
  | .object fields => .object (outlineFields fields)

def outlineItems : List Json → List Json
  | [] => []
  | item :: rest => item.outline :: outlineItems rest

def outlineFields : List (String × Json) → List (String × Json)
  | [] => []
  | (name, value) :: rest => (name, value.outline) :: outlineFields rest

end

theorem outlineItems_eq_map (items : List Json) : outlineItems items = items.map outline := by
  induction items with
  | nil => rfl
  | cons item rest ih => rw [outlineItems, ih, List.map_cons]

theorem outlineFields_eq_map (fields : List (String × Json)) :
    outlineFields fields = fields.map (Prod.map id outline) := by
  induction fields with
  | nil => rfl
  | cons field rest ih =>
    rw [outlineFields, ih, List.map_cons]
    rfl

/-- The value as formulas give it back. -/
def normalized (j : Json) : Json :=
  (Value.ofJson j).toJson

end Json

namespace Value

theorem ofJsonItems_eq_map (items : List Json) : ofJsonItems items = items.map ofJson := by
  induction items with
  | nil => rfl
  | cons item rest ih => rw [ofJsonItems, ih, List.map_cons]

theorem ofJsonFields_eq_map (fields : List (String × Json)) :
    ofJsonFields fields = fields.map (Prod.map id ofJson) := by
  induction fields with
  | nil => rfl
  | cons field rest ih =>
    rw [ofJsonFields, ih, List.map_cons]
    rfl

theorem toJsonItems_eq_map (items : List Value) : toJsonItems items = items.map toJson := by
  induction items with
  | nil => rfl
  | cons item rest ih => rw [toJsonItems, ih, List.map_cons]

theorem toJsonFields_eq_map (fields : List (String × Value)) :
    toJsonFields fields = fields.map (Prod.map id toJson) := by
  induction fields with
  | nil => rfl
  | cons field rest ih =>
    rw [toJsonFields, ih, List.map_cons]
    rfl

theorem sameItems_map {α : Type} {f g : α → Value} {items : List α}
    (h : ∀ item ∈ items, (f item).same (g item) = true) :
    sameItems (items.map f) (items.map g) = true := by
  induction items with
  | nil => rfl
  | cons item rest ih =>
    obtain ⟨hitem, hrest⟩ := List.forall_mem_cons.mp h
    rw [List.map_cons, List.map_cons, sameItems, hitem, ih hrest, Bool.and_self]

theorem sameFields_map {α : Type} {f g : α → Value} {fields : List (String × α)}
    (h : ∀ field ∈ fields, (f field.2).same (g field.2) = true) :
    sameFields (fields.map (Prod.map id f)) (fields.map (Prod.map id g)) = true := by
  induction fields with
  | nil => rfl
  | cons field rest ih =>
    obtain ⟨hfield, hrest⟩ := List.forall_mem_cons.mp h
    rw [List.map_cons, List.map_cons, Prod.map, Prod.map, sameFields, hfield, ih hrest]
    simp

end Value

namespace Json

theorem normalized_array (items : List Json) :
    (array items).normalized = .array (items.map normalized) := by
  rw [normalized, Value.ofJson, Value.toJson, Value.ofJsonItems_eq_map, Value.toJsonItems_eq_map,
    List.map_map]
  rfl

theorem normalized_object (fields : List (String × Json)) :
    (object fields).normalized = .object (fields.map (Prod.map id normalized)) := by
  rw [normalized, Value.ofJson, Value.toJson, Value.ofJsonFields_eq_map,
    Value.toJsonFields_eq_map, List.map_map]
  rfl

end Json

namespace Value

theorem wholeJsonLimit_lt : wholeJsonLimit < 2 ^ 53 := by
  decide

/-- How a number is written: as the whole number it is equal to, as it is, or not at all. -/
theorem numberToJson_cases (x : Float) :
    (∃ i : Int, Double.integer? x = some i ∧ i.natAbs < wholeJsonLimit ∧
      numberToJson x = .int i) ∨
    (x.isFinite = true ∧ numberToJson x = .float x) ∨
    (x.isFinite = false ∧ numberToJson x = .null) := by
  unfold numberToJson
  split
  · rename_i i hi
    split
    · exact .inl ⟨i, hi, ‹_›, rfl⟩
    · exact .inr (.inl ⟨Double.isFinite_of_integer? hi, rfl⟩)
  · split
    · exact .inr (.inl ⟨‹_›, rfl⟩)
    · exact .inr (.inr ⟨Bool.eq_false_iff.mpr ‹_›, rfl⟩)

theorem numberToJson_ofInt {i : Int} (h : i.natAbs < wholeJsonLimit) :
    numberToJson (Double.ofInt i) = .int i := by
  rw [numberToJson, Double.integer?_ofInt (Nat.lt_trans h wholeJsonLimit_lt)]
  exact if_pos h

end Value

namespace Json

theorem normalized_numberToJson (x : Float) :
    (Value.numberToJson x).normalized = Value.numberToJson x := by
  obtain ⟨i, -, hsmall, hi⟩ | ⟨-, hfloat⟩ | ⟨-, hnull⟩ := Value.numberToJson_cases x
  · rw [hi]
    exact Value.numberToJson_ofInt hsmall
  · rw [hfloat]
    exact hfloat
  · rw [hnull]
    rfl

theorem normalized_normalized (j : Json) : j.normalized.normalized = j.normalized := by
  induction j using induct with
  | null | bool | text => rfl
  | int | float => exact normalized_numberToJson _
  | array items ih =>
    rw [normalized_array, normalized_array, List.map_map]
    exact congrArg array (List.map_congr_left ih)
  | object fields ih =>
    rw [normalized_object, normalized_object, List.map_map]
    refine congrArg object (List.map_congr_left fun field hfield => ?_)
    exact Prod.ext rfl (ih field hfield)

/-- A finite number is written as a number that is read as the same. -/
theorem numberToJson_of_isFinite {x : Float} (hx : x.isFinite = true) :
    (Value.numberToJson x).outline = .int 0 ∧
      (Value.ofJson (Value.numberToJson x)).same (.number x) = true := by
  obtain ⟨i, hi, hsmall, hint⟩ | ⟨-, hfloat⟩ | ⟨hinfinite, -⟩ := Value.numberToJson_cases x
  · rw [hint]
    refine ⟨rfl, ?_⟩
    change (Double.ofInt i == x) = true
    exact Double.ofInt_beq hi (Nat.lt_trans hsmall Value.wholeJsonLimit_lt)
  · rw [hfloat]
    exact ⟨rfl, Double.beq_self_of_isFinite hx⟩
  · cases hinfinite.symm.trans hx

theorem outline_normalized {j : Json} (h : j.Fits) : j.normalized.outline = j.outline := by
  induction h with
  | null | bool | text => rfl
  | int low high => exact (numberToJson_of_isFinite (Double.isFinite_ofInt (by omega))).1
  | float finite => exact (numberToJson_of_isFinite finite).1
  | array _ ih =>
    rw [normalized_array, outline, outline, outlineItems_eq_map, outlineItems_eq_map, List.map_map]
    exact congrArg array (List.map_congr_left ih)
  | object _ ih =>
    rw [normalized_object, outline, outline, outlineFields_eq_map, outlineFields_eq_map,
      List.map_map]
    refine congrArg object (List.map_congr_left fun field hfield => ?_)
    exact Prod.ext rfl (ih field hfield)

theorem same_normalized {j : Json} (h : j.Fits) :
    (Value.ofJson j.normalized).same (Value.ofJson j) = true := by
  induction h with
  | null => rfl
  | bool | text => exact beq_self_eq_true _
  | int low high => exact (numberToJson_of_isFinite (Double.isFinite_ofInt (by omega))).2
  | float finite => exact (numberToJson_of_isFinite finite).2
  | array _ ih =>
    rw [normalized_array, Value.ofJson, Value.ofJson, Value.ofJsonItems_eq_map,
      Value.ofJsonItems_eq_map, List.map_map]
    exact Value.sameItems_map ih
  | object _ ih =>
    rw [normalized_object, Value.ofJson, Value.ofJson, Value.ofJsonFields_eq_map,
      Value.ofJsonFields_eq_map, List.map_map]
    exact Value.sameFields_map (f := Value.ofJson ∘ normalized) ih

/-- What formulas give back has the outline of what they took in and is read as the same value, in
which no more than the sign of a zero can be another; and it comes back unchanged. -/
theorem normalized_keeps (j : Json) :
    j.normalized.normalized = j.normalized ∧
      (j.Fits → j.normalized.outline = j.outline ∧
        (Value.ofJson j.normalized).same (Value.ofJson j) = true) ∧
      ∀ x y : Float, (Value.number x).same (.number y) = true →
        x = y ∨ (x = 0 ∧ y = -0) ∨ (x = -0 ∧ y = 0) :=
  ⟨normalized_normalized j, fun h => ⟨outline_normalized h, same_normalized h⟩,
    fun _ _ h => (Float.beq_iff_ne_nan_and_eq.mp h).2.2⟩

/-- Numbers on both sides of the limit, one that no double is equal to and a zero that loses its
sign. -/
theorem normalized_keeps_record :
    let j : Json := .object
      [("limits", .array [.int 8999999999999999, .float 9000000000000000, .int 9007199254740993]),
        ("rest", .object [("half", .float 1.5), ("none", .null), ("two", .float 2),
          ("word", .int 18446744073709551615), ("yes", .bool true), ("zero", .float (-0.0))])]
    let normal : Json := .object
      [("limits", .array [.int 8999999999999999, .float 9000000000000000, .float 9007199254740992]),
        ("rest", .object [("half", .float 1.5), ("none", .null), ("two", .int 2),
          ("word", .float 18446744073709551616), ("yes", .bool true), ("zero", .int 0)])]
    j.Fits ∧ j.normalized = normal ∧ normal.normalized = normal ∧ normal.outline = j.outline ∧
      (Value.ofJson normal).same (Value.ofJson j) = true := by
  intro j normal
  have hfits : j.Fits := by
    refine .object (List.forall_mem_cons.mpr
      ⟨.array ?_, List.forall_mem_singleton.mpr (.object ?_)⟩)
    · simp only [List.forall_mem_cons]
      exact ⟨.int (by decide) (by decide), .float (by decide +kernel),
        .int (by decide) (by decide), fun _ => nofun⟩
    · simp only [List.forall_mem_cons]
      exact ⟨.float (by decide +kernel), .null, .float (by decide +kernel),
        .int (by decide) (by decide), .bool true, .float (by decide +kernel), fun _ => nofun⟩
  have hnormal : j.normalized = normal := by decide +kernel
  obtain ⟨hagain, hkept, -⟩ := normalized_keeps j
  obtain ⟨houtline, hsame⟩ := hkept hfits
  rw [hnormal] at hagain houtline hsame
  exact ⟨hfits, hnormal, hagain, houtline, hsame⟩

end Json

end Stagewise
