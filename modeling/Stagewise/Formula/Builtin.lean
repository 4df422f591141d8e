import Stagewise.Formula.EvalError

/-! The functions that formulas can call, all but `filter`, and the constants. The aggregates take
anything: what is no array counts as empty, and items that are no numbers are skipped. -/

namespace Stagewise

inductive Builtin where
  | count
  | sum
  | avg
  | min
  | max
  | map
  | string
  | number
  | boolean
  | abs
  | floor
  | ceil
  | round
  | sqrt
  | pow
  | smallest
  | largest
deriving DecidableEq

namespace Builtin

def all : List Builtin :=
  [count, sum, avg, min, max, map, string, number, boolean, abs, floor, ceil, round, sqrt, pow,
    smallest, largest]

def name : Builtin → String
  | count => "count"
  | sum => "sum"
  | avg => "avg"
  | min => "min"
  | max => "max"
  | map => "map"
  | string => "String"
  | number => "Number"
  | boolean => "Boolean"
  | abs => "Math.abs"
  | floor => "Math.floor"
  | ceil => "Math.ceil"
  | round => "Math.round"
  | sqrt => "Math.sqrt"
  | pow => "Math.pow"
  | smallest => "Math.min"
  | largest => "Math.max"

def ofName? (n : String) : Option Builtin :=
  all.find? fun f => f.name == n

/-- The least and the greatest number of arguments; no greatest for some. -/
def arity : Builtin → Nat × Option Nat
  | count => (1, some 1)
  | sum | avg | min | max => (1, some 2)
  | map => (2, some 2)
  | string | number | boolean => (0, some 1)
  | abs | floor | ceil | round | sqrt => (1, some 1)
  | pow => (2, some 2)
  | smallest | largest => (0, none)

def arityError? (f : Builtin) (found : Nat) : Option EvalError :=
  match f.arity with
  | (least, some most) =>
    if least ≤ found ∧ found ≤ most then none else some (.arity f.name least most found)
  | (_, none) => none

/-- The items of an array, and none of anything else. -/
def itemsOf (v : Value) : List Value :=
  v.items?.getD []

/-- The key that a second argument gives. -/
def keyOf : Option Value → Option String
  | none => none
  | some .null => none
  | some v => some v.toText

/-- The numbers among the items, or among their fields of that name. -/
def summands (items : List Value) : Option String → List Float
  | none => items.filterMap Value.summand?
  | some key => items.filterMap fun item => (item.field key).summand?

/-- The sum from left to right; an empty one is negative zero. -/
def total (xs : List Float) : Float :=
  xs.foldl (· + ·) (-0.0)

/-- The lesser of two numbers, the second of equals. -/
def lesser (x y : Float) : Float :=
  if x < y then x else y

/-- The greater of two numbers, the second of equals. -/
def greater (x y : Float) : Float :=
  if y < x then x else y

/-- Four choices that are made side by side. -/
structure Lanes where
  first : Float
  second : Float
  third : Float
  fourth : Float

namespace Lanes

/-- The choices among whole rounds of four numbers, and the numbers that are left. -/
def take (pick : Float → Float → Float) (l : Lanes) : List Float → Lanes × List Float
  | a :: b :: c :: d :: xs =>
    take pick ⟨pick l.first a, pick l.second b, pick l.third c, pick l.fourth d⟩ xs
  | xs => (l, xs)

/-- The choice among the lanes: of equals the third, then the first, then the fourth. -/
def join (pick : Float → Float → Float) (l : Lanes) : Float :=
  pick (pick l.second l.fourth) (pick l.first l.third)

end Lanes

/-- The least or the greatest of some numbers, zero for none. The numbers after the first go through
four lanes as long as there are four, and one by one from there. The lanes only show in which of
two zeros of different signs comes out. -/
def extreme (pick : Float → Float → Float) : List Float → Float
  | [] => 0.0
  | x :: xs =>
    let (lanes, rest) := Lanes.take pick ⟨x, x, x, x⟩ xs
    rest.foldl pick (lanes.join pick)

/-- A choice of one of two numbers that NaN spoils. -/
def orNaN (pick : Float → Float → Float) (x y : Float) : Float :=
  if x.isNaN || y.isNaN then Value.nan else pick x y

/-- The value for arguments of a permitted number. -/
def result (f : Builtin) (args : List Value) : Value :=
  let first := args.headD .null
  let x := first.toNumber
  let xs := summands (itemsOf first) (keyOf args[1]?)
  match f with
  | count => .number (Double.ofInt (itemsOf first).length)
  | sum => .number (total xs)
  | avg =>
    match itemsOf first with
    | [] => .number 0.0
    | items => .number (total xs / Double.ofInt items.length)
  | min => .number (extreme lesser xs)
  | max => .number (extreme greater xs)
  | map =>
    .array ((itemsOf first).map fun item => item.field ((args[1]?.map Value.toText).getD ""))
  | string => .text ((args.head?.map Value.toText).getD "")
  | number => .number (if args.isEmpty then 0.0 else x)
  | boolean => .bool first.isTruthy
  | abs => .number x.abs
  | floor => .number x.floor
  | ceil => .number x.ceil
  | round => .number (x + 0.5).floor
  | sqrt => .number x.sqrt
  | pow => .number (x.pow ((args[1]?.map Value.toNumber).getD Value.nan))
  | smallest => .number ((args.map Value.toNumber).foldl (orNaN lesser) Value.infinity)
  | largest => .number ((args.map Value.toNumber).foldl (orNaN greater) (-Value.infinity))

def apply (f : Builtin) (args : List Value) : Except EvalError Value :=
  match f.arityError? args.length with
  | some e => .error e
  | none => .ok (f.result args)

end Builtin

/-- The constants, under their dotted names. -/
def constant? (path : String) : Option Value :=
  if path = "Math.PI" then some (.number (Float.ofBits 0x400921fb54442d18))
  else if path = "Math.E" then some (.number (Float.ofBits 0x4005bf0a8b145769))
  else none

end Stagewise
