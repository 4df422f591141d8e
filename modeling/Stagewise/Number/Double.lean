/-! Doubles as exact numbers: a finite double is a sign, a whole number and a power of two. Reading
one that way and rounding back to the nearest double gives the conversions from and to integers and
the exact remainder. -/

namespace Stagewise

/-- The power `2^k`. -/
def twoTo (k : Nat) : Nat := Nat.pow 2 k

/-- The exact value `(-1)^negative * significand * 2^exponent`. -/
structure Dyad where
  negative : Bool
  significand : Nat
  exponent : Int
deriving DecidableEq

namespace Dyad

def signed (d : Dyad) (n : Nat) : Int :=
  if d.negative then -n else n

/-- The value of a finite double, its significand as large as the format has it; none for NaN and
the infinities. -/
def ofFloat? (x : Float) : Option Dyad :=
  match x.toModel.unpack with
  | .finite sign m q _ => some ⟨sign == .negative, m, q⟩
  | .zero sign => some ⟨sign == .negative, 0, 0⟩
  | .infinity _ => none
  | .notANumber => none

/-- The nearest double; of two equally near, the one with the even significand. -/
def toFloat (d : Dyad) : Float :=
  .ofModel (.pack (.round .binary64 (if d.negative then .negative else .positive)
    d.significand d.exponent))

/-- The value when it is whole. -/
def integer? (d : Dyad) : Option Int :=
  if 0 ≤ d.exponent then
    some (d.signed (d.significand * twoTo d.exponent.toNat))
  else if d.significand % twoTo (-d.exponent).toNat = 0 then
    some (d.signed (d.significand / twoTo (-d.exponent).toNat))
  else
    none

end Dyad

/-- The double nearest to an integer. -/
def Double.ofInt (i : Int) : Float :=
  Dyad.toFloat ⟨i < 0, i.natAbs, 0⟩

/-- The integer that a double is equal to. Both zeros are 0. -/
def Double.integer? (x : Float) : Option Int :=
  (Dyad.ofFloat? x).bind Dyad.integer?

/-- What is left of `x` after taking away `y` as often as it fits, exactly, with the sign of `x`. -/
def Double.remainder (x y : Float) : Float :=
  match Dyad.ofFloat? x, Dyad.ofFloat? y with
  | some a, some b =>
    if b.significand = 0 then 0.0 / 0.0
    else
      let q := min a.exponent b.exponent
      let scale (d : Dyad) := d.significand * twoTo (d.exponent - q).toNat
      Dyad.toFloat ⟨a.negative, scale a % scale b, q⟩
  | some _, none => if y.isNaN then y else x
  | none, _ => 0.0 / 0.0

end Stagewise
