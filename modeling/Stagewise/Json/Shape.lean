import Stagewise.Json.Writer
import Stagewise.Text.Quoted

/-! Typed reading of JSON values. A structure is read from an object or from an array of its fields
in their order. In an object the first bad field, by name, is the one that is reported, and fields
that are missing only after it; fields of other names are passed over. -/

namespace Stagewise

/-- Why a value does not fit a type. -/
inductive ShapeError where
  | missing (field : String)
  | wrongType (found : Json) (wanted : String)
  | outOfRange (found : Int) (wanted : String)
  | unknownVariant (found : String) (variants : List String)
  | notOneVariant
  | tooShort (length : Nat) (structureName : String) (size : Nat)
  | tooLong (length : Nat)

namespace ShapeError

def ticked (s : String) : String := "`" ++ s ++ "`"

/-- What a value is called when something else was wanted. -/
def describe : Json → String
  | .null => "null"
  | .bool b => "boolean " ++ ticked (if b then "true" else "false")
  | .int i => "integer " ++ ticked (toString i)
  | .float x => "floating point " ++ ticked (Json.floatText x)
  | .text s => "string " ++ quoted s
  | .array _ => "sequence"
  | .object _ => "map"

def alternatives : List String → String
  | [] => "there are no variants"
  | [a] => "expected " ++ ticked a
  | [a, b] => "expected " ++ ticked a ++ " or " ++ ticked b
  | variants => "expected one of " ++ ", ".intercalate (variants.map ticked)

def message : ShapeError → String
  | missing field => "missing field " ++ ticked field
  | wrongType found wanted => "invalid type: " ++ describe found ++ ", expected " ++ wanted
  | outOfRange found wanted =>
    "invalid value: integer " ++ ticked (toString found) ++ ", expected " ++ wanted
  | unknownVariant found variants =>
    "unknown variant " ++ ticked found ++ ", " ++ alternatives variants
  | notOneVariant => "invalid value: map, expected map with a single key"
  | tooShort length structureName size =>
    "invalid length " ++ toString length ++ ", expected struct " ++ structureName ++ " with " ++
      toString size ++ (if size = 1 then " element" else " elements")
  | tooLong length =>
    "invalid length " ++ toString length ++ ", expected fewer elements in array"

end ShapeError

abbrev Decoder (α : Type) := Json → Except ShapeError α

namespace Decoder

def bool : Decoder Bool
  | .bool b => .ok b
  | other => .error (.wrongType other "a boolean")

def text : Decoder String
  | .text s => .ok s
  | other => .error (.wrongType other "a string")

/-- Any value, as it is. -/
def raw : Decoder Json := .ok

def natural (bound : Nat) (wanted : String) : Decoder Nat
  | .int i => if 0 ≤ i ∧ i < bound then .ok i.toNat else .error (.outOfRange i wanted)
  | other => .error (.wrongType other wanted)

def word32 : Decoder UInt32 := fun json =>
  (natural UInt32.size "u32" json).map UInt32.ofNat

def word64 : Decoder UInt64 := fun json =>
  (natural UInt64.size "u64" json).map UInt64.ofNat

/-- A word of the size of a memory address. -/
def size64 : Decoder UInt64 := fun json =>
  (natural UInt64.size "usize" json).map UInt64.ofNat

def list {α : Type} (item : Decoder α) : Decoder (List α)
  | .array items => items.mapM item
  | other => .error (.wrongType other "a sequence")

/-- `null` is no value. -/
def option {α : Type} (some? : Decoder α) : Decoder (Option α)
  | .null => .ok none
  | other => (some? other).map some

/-- One of a few names, written as a string or as the only name of an object that holds `null`. -/
def variant {α : Type} (variants : List (String × α)) : Decoder α
  | .text name => named name
  | .object [(name, content)] => do
    let value ← named name
    if content.isNull then .ok value else .error (.wrongType content "unit")
  | .object _ => .error .notOneVariant
  | other => .error (.wrongType other "string or map")
where
  named (name : String) : Except ShapeError α :=
    match variants.lookup name with
    | some value => .ok value
    | none => .error (.unknownVariant name (variants.map Prod.fst))

end Decoder

/-- A named field of a structure, and the value it has when it is left out, if it may be. -/
structure Field (α : Type) where
  name : String
  decode : Decoder α
  absent : Option α

/-- The fields of a structure read one after another. -/
structure Fields (α : Type) where
  /-- The names of the fields in their order. -/
  names : List String
  /-- Whether a value fits the field of that name, if there is one. -/
  check : String → Json → Except ShapeError Unit
  ofRecord : Record Json → Except ShapeError α
  /-- Reads from the front of an array. The first argument makes the error for an array that ends
  before the field of that number. -/
  ofItems : (Nat → ShapeError) → List Json → Except ShapeError (α × List Json)

namespace Fields

variable {α β : Type}

def done (value : α) : Fields α where
  names := []
  check _ _ := .ok ()
  ofRecord _ := .ok value
  ofItems _ items := .ok (value, items)

def ofRecordField (field : Field α) (r : Record Json) : Except ShapeError α :=
  match r.get? field.name with
  | some json => field.decode json
  | none =>
    match field.absent with
    | some value => .ok value
    | none => .error (.missing field.name)

def ofItemsField (field : Field α) (tooShort : ShapeError) :
    List Json → Except ShapeError (α × List Json)
  | json :: rest => (field.decode json).map fun value => (value, rest)
  | [] =>
    match field.absent with
    | some value => .ok (value, [])
    | none => .error tooShort

/-- The given fields and one more after them. -/
def and (fields : Fields (α → β)) (field : Field α) : Fields β where
  names := fields.names ++ [field.name]
  check name json :=
    if name = field.name then (field.decode json).map fun _ => () else fields.check name json
  ofRecord r := do
    let build ← fields.ofRecord r
    let value ← ofRecordField field r
    .ok (build value)
  ofItems tooShort items := do
    let (build, items) ← fields.ofItems tooShort items
    let (value, items) ← ofItemsField field (tooShort fields.names.length) items
    .ok (build value, items)

def checkAll (fields : Fields α) (r : Record Json) : Except ShapeError Unit :=
  r.forM fun entry => fields.check entry.1 entry.2

/-- A structure of that name. -/
def decoder (fields : Fields α) (structureName : String) : Decoder α
  | .object r => do
    fields.checkAll r
    fields.ofRecord r
  | .array items => do
    let tooShort (n : Nat) : ShapeError := .tooShort n structureName fields.names.length
    let (value, rest) ← fields.ofItems tooShort items
    if rest.isEmpty then .ok value else .error (.tooLong items.length)
  | other => .error (.wrongType other ("struct " ++ structureName))

end Fields

namespace Field

variable {α : Type}

def required (name : String) (decode : Decoder α) : Field α := ⟨name, decode, none⟩

def withDefault (name : String) (decode : Decoder α) (value : α) : Field α :=
  ⟨name, decode, some value⟩

def optional (name : String) (decode : Decoder α) : Field (Option α) :=
  ⟨name, Decoder.option decode, some none⟩

end Field

end Stagewise
