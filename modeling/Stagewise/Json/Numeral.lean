import Stagewise.Json.Basic
import Stagewise.Number.Decimal

/-! Numbers in JSON texts. A whole number that fits a signed or unsigned word of 64 bits stays
whole; any other number becomes a double, and one beyond the doubles is refused. -/

namespace Stagewise

namespace Json

/-- The digits of a number as written. -/
structure Numeral where
  negative : Bool
  whole : List Char
  fraction : List Char
  exponent : Int
  /-- A point or an exponent was written. -/
  marked : Bool

namespace Numeral

def greatestWord : Nat := twoTo 64 - 1

/-- Takes digits as long as the number they make fits a word; what is left is dropped. -/
def gather (n : Nat) : List Char → Nat × List Char
  | [] => (n, [])
  | d :: ds =>
    let next := 10 * n + (d.toNat - '0'.toNat)
    if next ≤ greatestWord then gather next ds else (n, d :: ds)

/-- Division by `10^k`, by at most `10^308` at a time. -/
def lower (x : Float) (k : Nat) : Float :=
  if k ≤ 308 then x / Float.ofScientific 1 false k
  else if x == 0.0 then x
  else lower (x / Float.ofScientific 1 false 308) (k - 308)
termination_by k

/-- The word `n`, as a double, times `10^e`. -/
def scale (n : Nat) (e : Int) : Option Float :=
  let x := Double.ofInt n
  if e < 0 then some (lower x e.natAbs)
  else if x == 0.0 then some x
  else if 308 < e then none
  else
    let y := x * Float.ofScientific 1 false e.natAbs
    if y.isInf then none else some y

def signed (negative : Bool) (x : Float) : Float :=
  if negative then -x else x

def value? (n : Numeral) : Option Json :=
  let (word, dropped) := gather 0 n.whole
  if !n.marked && dropped.isEmpty then
    if !n.negative then some (.int word)
    else if word ≠ 0 ∧ word ≤ twoTo 63 then some (.int (-word))
    else some (.float (signed true (Double.ofInt word)))
  else
    let (word, rest) := gather word n.fraction
    let shift : Int := dropped.length - (n.fraction.length - rest.length : Nat)
    (scale word (shift + n.exponent)).map fun x => .float (signed n.negative x)

end Numeral

end Json

end Stagewise
