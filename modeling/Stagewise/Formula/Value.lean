import Stagewise.Json.Writer
import Stagewise.Text.Blank
import Stagewise.Text.Quoted

/-! The values that formulas compute with, and their conversions to truth values, numbers, texts and
JSON. `null` also stands for what is not there. -/

namespace Stagewise

inductive Value where
  | null
  | bool (b : Bool)
  | number (x : Float)
  | text (s : String)
  | array (items : List Value)
  | object (fields : List (String × Value))
deriving Inhabited

namespace Value

def typeName : Value → String
  | null => "null"
  | bool _ => "boolean"
  | number _ => "number"
  | text _ => "string"
  | array _ => "array"
  | object _ => "object"

def isTruthy : Value → Bool
  | null => false
  | bool b => b
  | number x => !(x == 0.0) && !x.isNaN
  | text s => !s.isEmpty
  | array _ => true
  | object _ => true

/-- The named field; what has no such field gives `null`. -/
def field (v : Value) (name : String) : Value :=
  match v with
  | object fields => (Record.get? fields name).getD null
  | _ => null

/-- The items of an array. -/
def items? : Value → Option (List Value)
  | array items => some items
  | _ => none

def nan : Float := 0.0 / 0.0

def infinity : Float := 1.0 / 0.0

/-- The number that a text spells: `Infinity` with or without a sign, or a decimal. -/
def numberOfText? (cs : List Char) : Option Float :=
  if cs = "Infinity".toList ∨ cs = "+Infinity".toList then some infinity
  else if cs = "-Infinity".toList then some (-infinity)
  else (Decimal.ofChars? cs).map Decimal.toFloat

/-- The number that a value counts as. A blank text is zero and an array counts as its only item. -/
def toNumber : Value → Float
  | null => 0.0
  | bool b => if b then 1.0 else 0.0
  | number x => x
  | text s =>
    let cs := trimBlanks s.toList
    if cs.isEmpty then 0.0 else (numberOfText? cs).getD nan
  | array [] => 0.0
  | array [item] => item.toNumber
  | array _ => nan
  | object _ => nan

/-- The number that a value adds to a total, if any. -/
def summand? : Value → Option Float
  | number x => if x.isNaN then none else some x
  | bool b => some (if b then 1.0 else 0.0)
  | text s => numberOfText? (trimBlanks s.toList)
  | _ => none

mutual

def ofJson : Json → Value
  | .null => .null
  | .bool b => .bool b
  | .int i => .number (Double.ofInt i)
  | .float x => .number x
  | .text s => .text s
  | .array items => .array (ofJsonItems items)
  | .object fields => .object (ofJsonFields fields)

def ofJsonItems : List Json → List Value
  | [] => []
  | item :: rest => ofJson item :: ofJsonItems rest

def ofJsonFields : List (String × Json) → List (String × Value)
  | [] => []
  | (name, value) :: rest => (name, ofJson value) :: ofJsonFields rest

end

/-- The size up to which whole numbers are written as integers in JSON. -/
def wholeJsonLimit : Nat := 9 * tenTo 15

def numberToJson (x : Float) : Json :=
  match Double.integer? x with
  | some i => if i.natAbs < wholeJsonLimit then .int i else .float x
  | none => if x.isFinite then .float x else .null

mutual

def toJson : Value → Json
  | null => .null
  | bool b => .bool b
  | number x => numberToJson x
  | text s => .text s
  | array items => .array (toJsonItems items)
  | object fields => .object (toJsonFields fields)

def toJsonItems : List Value → List Json
  | [] => []
  | item :: rest => item.toJson :: toJsonItems rest

def toJsonFields : List (String × Value) → List (String × Json)
  | [] => []
  | (name, value) :: rest => (name, value.toJson) :: toJsonFields rest

end

/-- The size up to which whole numbers are shown as integers. -/
def wholeTextLimit : Nat := tenTo 15

def numberText (x : Float) : String :=
  match Double.integer? x with
  | some i => if i.natAbs < wholeTextLimit then toString i else Double.plain x
  | none => Double.plain x

/-- The text that shows a value, texts between quotes. -/
def display : Value → String
  | null => "null"
  | bool b => if b then "true" else "false"
  | number x => numberText x
  | text s => quoted s
  | array items => (array items).toJson.compact
  | object fields => (object fields).toJson.compact

mutual

/-- The text that a value turns into when it is joined to another text. -/
def toText : Value → String
  | null => "null"
  | bool b => if b then "true" else "false"
  | number x => numberText x
  | text s => s
  | array items => ",".intercalate (itemTexts items)
  | object _ => "[object Object]"

/-- Items of an array; those that are `null` leave an empty place. -/
def itemTexts : List Value → List String
  | [] => []
  | .null :: rest => "" :: itemTexts rest
  | item :: rest => item.toText :: itemTexts rest

end

mutual

/-- Strict equality: the same type and the same content, numbers compared as doubles. -/
def same : Value → Value → Bool
  | null, null => true
  | bool a, bool b => a == b
  | number x, number y => x == y
  | text s, text t => s == t
  | array xs, array ys => sameItems xs ys
  | object xs, object ys => sameFields xs ys
  | _, _ => false

def sameItems : List Value → List Value → Bool
  | [], [] => true
  | x :: xs, y :: ys => x.same y && sameItems xs ys
  | _, _ => false

def sameFields : List (String × Value) → List (String × Value) → Bool
  | [], [] => true
  | (k, x) :: xs, (l, y) :: ys => k == l && x.same y && sameFields xs ys
  | _, _ => false

end

/-- Loose equality: `null` equals only itself, and a number and a text or anything beside a truth
value are compared as numbers. -/
def loose (left right : Value) : Bool :=
  match left, right with
  | null, null => true
  | null, _ => false
  | _, null => false
  | number _, text _ => left.toNumber == right.toNumber
  | text _, number _ => left.toNumber == right.toNumber
  | bool _, _ => left.toNumber == right.toNumber
  | _, bool _ => left.toNumber == right.toNumber
  | _, _ => left.same right

/-- Texts are ordered by their characters and everything else as numbers; NaN has no order. -/
def order? (left right : Value) : Option Ordering :=
  match left, right with
  | text s, text t => some (compare s t)
  | _, _ =>
    let x := left.toNumber
    let y := right.toNumber
    if x < y then some .lt else if x == y then some .eq else if y < x then some .gt else none

end Value

end Stagewise
