import Stagewise.Formula.Basic
import Stagewise.Json.Shape

/-! The formulas of a form field: when it is shown, when it can be used and what value it has. -/

namespace Stagewise

structure FieldFormulas where
  visibleWhen : Option String
  enabledWhen : Option String
  computed : Option String
deriving DecidableEq

structure FieldState where
  visible : Bool
  enabled : Bool
  value : Option Value

namespace FieldFormulas

def decoder : Decoder FieldFormulas :=
  ((((Fields.done FieldFormulas.mk).and (.optional "visibleWhen" Decoder.text)).and
    (.optional "enabledWhen" Decoder.text)).and
    (.optional "computed" Decoder.text)).decoder "FieldFormulas"

def toJson (f : FieldFormulas) : Json :=
  .ofPresent
    [("visibleWhen", f.visibleWhen.map Json.text),
     ("enabledWhen", f.enabledWhen.map Json.text),
     ("computed", f.computed.map Json.text)]

/-- The state of the field for a record. Without a condition it is shown and can be used. -/
def resolve (f : FieldFormulas) (record : Json) : FieldState :=
  let c := Context.ofJson record
  { visible := f.visibleWhen.all fun source => conditionHoldsIn source c
    enabled := f.enabledWhen.all fun source => conditionHoldsIn source c
    value := f.computed.bind fun source => computedIn? source c }

end FieldFormulas

end Stagewise
