import Stagewise.Number.Decimal

/-! The written forms of a double. All have the fewest digits that read back; they differ in which
of two equally near decimals they take, in where they change to an exponent and in the mark of a
whole number. -/

namespace Stagewise

/-- How a double becomes text. -/
structure DecimalLayout where
  /-- Which of two equally near decimals of the fewest digits is written. -/
  tie : Decimal.Tie
  /-- The powers of ten of the first digit that are written without an exponent; all when absent. -/
  positional : Option (Int × Int)
  /-- What follows the digits of a whole number. -/
  wholeMark : String

namespace DecimalLayout

def isPositional (layout : DecimalLayout) (leading : Int) : Bool :=
  layout.positional.all fun range => range.1 ≤ leading && leading ≤ range.2

/-- Digits with the point where it belongs. -/
def writePositional (layout : DecimalLayout) (ds : List Char) (e : Int) : String :=
  let point := ds.length + e
  if 0 ≤ e then
    String.ofList (ds ++ List.replicate e.toNat '0') ++ layout.wholeMark
  else if 0 < point then
    String.ofList (ds.take point.toNat ++ '.' :: ds.drop point.toNat)
  else
    String.ofList ('0' :: '.' :: List.replicate (-point).toNat '0' ++ ds)

/-- One digit, the others after a point, and the exponent with its sign. -/
def writeScientific (ds : List Char) (leading : Int) : String :=
  let mantissa := match ds with
    | [] => []
    | [d] => [d]
    | d :: rest => d :: '.' :: rest
  String.ofList mantissa ++ "e" ++ (if leading < 0 then "-" else "+") ++ toString leading.natAbs

def write (layout : DecimalLayout) (d : Decimal) : String :=
  let ds := Nat.toDigits 10 d.digits
  let leading := ds.length - 1 + d.exponent
  (if d.negative then "-" else "") ++
    (if layout.isPositional leading then layout.writePositional ds d.exponent
     else writeScientific ds leading)

/-- The shortest decimal of a finite double. -/
def writeDyad (layout : DecimalLayout) (d : Dyad) : String :=
  layout.write (Decimal.shortest layout.tie d)

end DecimalLayout

/-- Every digit is written out, a whole number has no point, and ties go away from zero. -/
def plainLayout : DecimalLayout where
  tie := .greater
  positional := none
  wholeMark := ""

/-- A double in full, whatever its size. -/
def Double.plain (x : Float) : String :=
  match Dyad.ofFloat? x with
  | some d => plainLayout.writeDyad d
  | none => if x.isNaN then "NaN" else if x < 0.0 then "-inf" else "inf"

end Stagewise
