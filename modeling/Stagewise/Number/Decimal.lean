import Stagewise.Number.Double

/-! Decimal numbers: the reading of a written decimal, and the shortest decimal that reads back as
a given double. -/

namespace Stagewise

/-- The power `10^k`. -/
def tenTo (k : Nat) : Nat := Nat.pow 10 k

/-- The number `(-1)^negative * digits * 10^exponent`. -/
structure Decimal where
  negative : Bool
  digits : Nat
  exponent : Int
deriving DecidableEq

namespace Decimal

/-- The nearest double. -/
def toFloat (d : Decimal) : Float :=
  let magnitude := Float.ofScientific d.digits (d.exponent < 0) d.exponent.natAbs
  if d.negative then -magnitude else magnitude

def digitsValue (ds : List Char) : Nat :=
  ds.foldl (fun n c => 10 * n + (c.toNat - '0'.toNat)) 0

def digits? (ds : List Char) : Option Nat :=
  if ds ≠ [] ∧ ds.all Char.isDigit then some (digitsValue ds) else none

/-- An exponent part, or nothing. -/
def exponent? : List Char → Option Int
  | [] => some 0
  | mark :: rest =>
    if mark = 'e' ∨ mark = 'E' then
      match rest with
      | '-' :: ds => (digits? ds).map fun n => -(n : Int)
      | '+' :: ds => (digits? ds).map fun n => (n : Int)
      | ds => (digits? ds).map fun n => (n : Int)
    else
      none

def unsigned? (negative : Bool) (cs : List Char) : Option Decimal :=
  let whole := cs.takeWhile Char.isDigit
  let (fraction, rest) :=
    match cs.dropWhile Char.isDigit with
    | '.' :: rest => (rest.takeWhile Char.isDigit, rest.dropWhile Char.isDigit)
    | rest => ([], rest)
  if whole.isEmpty && fraction.isEmpty then none
  else (exponent? rest).map fun e =>
    ⟨negative, digitsValue (whole ++ fraction), e - fraction.length⟩

/-- A decimal in text: an optional sign, digits with at most one point among or beside them, and an
optional exponent. -/
def ofChars? : List Char → Option Decimal
  | '-' :: cs => unsigned? true cs
  | '+' :: cs => unsigned? false cs
  | cs => unsigned? false cs

/-- The numbers that round to one double, in quarters of its last place: the double itself lies at
`middle` and the interval runs from `low` to `high`, ends included when `closed`. -/
structure Interval where
  low : Nat
  middle : Nat
  high : Nat
  closed : Bool
  exponent : Int

/-- Below a power of two the doubles lie closer, so the interval is shorter on that side. -/
def Interval.ofDyad (d : Dyad) : Interval where
  low := if d.significand = twoTo 52 ∧ -1074 < d.exponent then 4 * d.significand - 1
    else 4 * d.significand - 2
  middle := 4 * d.significand
  high := 4 * d.significand + 2
  closed := d.significand % 2 == 0
  exponent := d.exponent - 2

/-- The point `n * 10^e` lies in the interval. -/
def Interval.contains (i : Interval) (n : Nat) (e : Int) : Bool :=
  let point := n * twoTo (-i.exponent).toNat * tenTo e.toNat
  let scale := twoTo i.exponent.toNat * tenTo (-e).toNat
  if i.closed then i.low * scale ≤ point && point ≤ i.high * scale
  else i.low * scale < point && point < i.high * scale

/-- Which of two equally near points is taken. -/
inductive Tie where
  | even
  | greater
deriving DecidableEq

/-- Whether the lower of two neighbours is taken, when the value lies `rest` of a `unit` above it. -/
def Tie.takesLower (tie : Tie) (lower rest unit : Nat) : Bool :=
  match compare (2 * rest) unit, tie with
  | .lt, _ => true
  | .eq, .even => lower % 2 == 0
  | .eq, .greater => false
  | .gt, _ => false

/-- The point of the grid of multiples of `10^e` that lies in the interval, nearest to its middle.
Only the two neighbours of the middle need a look. -/
def Interval.gridPoint? (i : Interval) (tie : Tie) (e : Int) : Option Nat :=
  let unit := twoTo (-i.exponent).toNat * tenTo e.toNat
  let middle := i.middle * (twoTo i.exponent.toNat * tenTo (-e).toNat)
  let below := middle / unit
  let rest := middle % unit
  match i.contains below e, i.contains (below + 1) e with
  | true, true =>
    if tie.takesLower below rest unit then some below else some (below + 1)
  | true, false => some below
  | false, true => some (below + 1)
  | false, false => none

/-- The greatest `e` with `10^e ≤ significand * 2^exponent`, for a positive significand. -/
def leadingExponent (d : Dyad) : Int :=
  let estimate := (d.exponent + d.significand.log2) * 30103 / 100000 + 1
  let reaches (e : Int) : Bool :=
    twoTo (-d.exponent).toNat * tenTo e.toNat ≤
      d.significand * twoTo d.exponent.toNat * tenTo (-e).toNat
  if reaches estimate then estimate
  else if reaches (estimate - 1) then estimate - 1
  else estimate - 2

/-- The first of the finer and finer grids from `10^e` down that has a point in the interval. -/
def Interval.firstGridPoint (i : Interval) (tie : Tie) (negative : Bool) (e : Int) :
    Nat → Decimal
  | 0 => ⟨negative, i.middle, i.exponent⟩
  | tries + 1 =>
    match i.gridPoint? tie e with
    | some n => ⟨negative, n, e⟩
    | none => firstGridPoint i tie negative (e - 1) tries

/-- Digits without the zeros at their end. -/
def stripZeros (d : Decimal) : Nat → Decimal
  | 0 => d
  | tries + 1 =>
    if d.digits ≠ 0 ∧ d.digits % 10 = 0 then
      stripZeros { d with digits := d.digits / 10, exponent := d.exponent + 1 } tries
    else d

/-- The decimal with the fewest digits that reads back as the double, and of those the nearest to
it. Seventeen digits are always enough. -/
def shortest (tie : Tie) (d : Dyad) : Decimal :=
  if d.significand = 0 then ⟨d.negative, 0, 0⟩
  else stripZeros
    ((Interval.ofDyad d).firstGridPoint tie d.negative (leadingExponent d) 18) 18

end Decimal

end Stagewise
