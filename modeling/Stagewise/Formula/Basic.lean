import Stagewise.Formula.Context
import Stagewise.Formula.Grammar
import Stagewise.Formula.Token.Scan

/-! Formulas: text that has been parsed once and can be evaluated on many records. A condition holds
when its formula fails, so that a broken one hides nothing, and a computed value is absent when its
formula fails. -/

namespace Stagewise

structure Formula where
  source : String
  expression : Expression

inductive FormulaError where
  | parse (e : ParseError)
  | evaluation (e : EvalError)

def FormulaError.message : FormulaError → String
  | parse e => e.message
  | evaluation e => e.message

namespace Formula

/-- The greatest length of a formula, in bytes. -/
def maxLength : Nat := 4096

/-- The expression that a text writes. A chain gives its levels back at its end, and a node that is
put on top of it does not count them again, so the depth of the tree is checked once more. -/
def parseExpression (source : String) : Except ParseError Expression :=
  if isBlankText source then .error .empty
  else if maxLength < source.utf8ByteSize then .error (.tooLong source.utf8ByteSize maxLength)
  else do
    let tokens ← Token.ofText source
    let e ← Grammar.parseTokens tokens
    if Grammar.maxDepth < e.depth then .error (.tooDeep Grammar.maxDepth) else .ok e

def parse (source : String) : Except ParseError Formula :=
  (parseExpression source).map fun e => ⟨source, e⟩

def referencedFields (f : Formula) : List String :=
  f.expression.referencedFields

def evaluate (f : Formula) (c : Context) : Except EvalError Value :=
  f.expression.evaluate c.scope

def evaluateJson (f : Formula) (record : Json) : Except EvalError Value :=
  f.evaluate (Context.ofJson record)

/-- Whether the value is truthy; a failure counts as true. -/
def condition (f : Formula) (c : Context) : Bool :=
  match f.evaluate c with
  | .ok v => v.isTruthy
  | .error _ => true

def value? (f : Formula) (c : Context) : Option Value :=
  (f.evaluate c).toOption

end Formula

/-- The value of a formula on a record. -/
def evaluateText (source : String) (record : Json) : Except FormulaError Value :=
  match Formula.parse source with
  | .error e => .error (.parse e)
  | .ok f =>
    match f.evaluateJson record with
    | .error e => .error (.evaluation e)
    | .ok v => .ok v

def conditionHolds (source : String) (record : Json) : Bool :=
  match evaluateText source record with
  | .ok v => v.isTruthy
  | .error _ => true

def computed? (source : String) (record : Json) : Option Value :=
  (evaluateText source record).toOption

def conditionHoldsIn (source : String) (c : Context) : Bool :=
  match Formula.parse source with
  | .ok f => f.condition c
  | .error _ => true

def computedIn? (source : String) (c : Context) : Option Value :=
  match Formula.parse source with
  | .ok f => f.value? c
  | .error _ => none

end Stagewise
