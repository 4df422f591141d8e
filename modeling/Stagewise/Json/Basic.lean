import Stagewise.Record

/-! JSON values. Whole numbers and doubles are kept apart, as they are in texts (`1` and `1.0`), and
the fields of an object are held by name. -/

namespace Stagewise

inductive Json where
  | null
  | bool (b : Bool)
  | int (i : Int)
  | float (x : Float)
  | text (s : String)
  | array (items : List Json)
  | object (fields : List (String × Json))
deriving Inhabited

namespace Json

mutual

/-- Whether two values are equal. -/
def same : Json → Json → Bool
  | .null, .null => true
  | .bool a, .bool b => a == b
  | .int i, .int j => i == j
  | .float x, .float y => decide (x = y)
  | .text s, .text t => s == t
  | .array xs, .array ys => sameItems xs ys
  | .object xs, .object ys => sameFields xs ys
  | _, _ => false

def sameItems : List Json → List Json → Bool
  | [], [] => true
  | x :: xs, y :: ys => x.same y && sameItems xs ys
  | _, _ => false

def sameFields : List (String × Json) → List (String × Json) → Bool
  | [], [] => true
  | (k, x) :: xs, (l, y) :: ys => k == l && x.same y && sameFields xs ys
  | _, _ => false

end

mutual

theorem same_iff_eq : ∀ x y : Json, x.same y = true ↔ x = y
  | .null, y | .bool _, y | .int _, y | .float _, y | .text _, y => by cases y <;> simp [same]
  | .array xs, y => by cases y <;> simp [same, sameItems_iff_eq xs]
  | .object xs, y => by cases y <;> simp [same, sameFields_iff_eq xs]

theorem sameItems_iff_eq : ∀ xs ys : List Json, sameItems xs ys = true ↔ xs = ys
  | [], ys => by cases ys <;> simp [sameItems]
  | x :: xs, ys => by cases ys <;> simp [sameItems, same_iff_eq x, sameItems_iff_eq xs]

theorem sameFields_iff_eq :
    ∀ xs ys : List (String × Json), sameFields xs ys = true ↔ xs = ys
  | [], ys => by cases ys <;> simp [sameFields]
  | (k, x) :: xs, ys => by
    cases ys <;> simp [sameFields, same_iff_eq x, sameFields_iff_eq xs, Prod.ext_iff]

end

instance : DecidableEq Json := fun x y =>
  decidable_of_iff (x.same y = true) (same_iff_eq x y)

/-- The named field of an object; nothing else has fields. -/
def field? : Json → String → Option Json
  | .object fields, name => Record.get? fields name
  | _, _ => none

def text? : Json → Option String
  | .text s => some s
  | _ => none

def isNull : Json → Bool
  | .null => true
  | _ => false

def isObject : Json → Bool
  | .object _ => true
  | _ => false

/-- The name of the kind of value. -/
def kind : Json → String
  | .null => "null"
  | .bool _ => "boolean"
  | .int _ => "number"
  | .float _ => "number"
  | .text _ => "string"
  | .array _ => "array"
  | .object _ => "object"

/-- The kinds of values by their names. -/
inductive Named : Json → String → Prop
  | null : Named .null "null"
  | bool (b : Bool) : Named (.bool b) "boolean"
  | int (i : Int) : Named (.int i) "number"
  | float (x : Float) : Named (.float x) "number"
  | text (s : String) : Named (.text s) "string"
  | array (items : List Json) : Named (.array items) "array"
  | object (fields : List (String × Json)) : Named (.object fields) "object"

theorem named_iff {json : Json} {name : String} : json.Named name ↔ name = json.kind := by
  constructor
  · intro h
    cases h <;> rfl
  · rintro rfl
    cases json <;> constructor

/-- An object of the given fields, in the order of their names. -/
def ofFields (fields : List (String × Json)) : Json :=
  .object (Record.ofList fields)

/-- An object of those of the given fields that are there. -/
def ofPresent (fields : List (String × Option Json)) : Json :=
  ofFields (fields.filterMap fun field => field.2.map fun value => (field.1, value))

end Json

end Stagewise
