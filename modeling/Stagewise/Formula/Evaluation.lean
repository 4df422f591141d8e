import Stagewise.Formula.Builtin
import Stagewise.Formula.Expression

/-! The value of an expression, given what its names stand for. A name that stands for nothing is an
error, except where the language tolerates missing input: as the source of a projection or filter,
as the operand of a length and as an argument of a function it reads as `null`. -/

namespace Stagewise

/-- What names stand for. -/
abbrev Scope := String → Option Value

def Scope.bind (scope : Scope) (name : String) (value : Value) : Scope := fun n =>
  if n = name then some value else scope n

namespace Expression

/-- An outcome, but `null` for a bare name that stands for nothing. -/
def tolerant (scope : Scope) (e : Expression) (outcome : Except EvalError Value) :
    Except EvalError Value :=
  match e with
  | name n => .ok ((scope n).getD .null)
  | _ => outcome

/-- The constant that a member is, if its object is a name that stands for nothing. -/
def constantMember? (scope : Scope) (object : Expression) (property : String) : Option Value :=
  match object with
  | name base => if (scope base).isNone then constant? (base ++ "." ++ property) else none
  | _ => none

def memberOf (property : String) : Value → Except EvalError Value
  | .null => .error (.nullAccess property)
  | v => .ok (v.field property)

/-- The whole number that an index is, if it is one and not negative. -/
def position? : Value → Option Nat
  | .number x =>
    match Double.integer? x with
    | some (.ofNat n) => some n
    | _ => none
  | _ => none

def itemAt (index : Value) : Value → Except EvalError Value
  | .null => .error (.nullAccess index.toText)
  | .array items => .ok ((position? index).bind (items[·]?) |>.getD .null)
  | .text s =>
    .ok ((position? index).bind (s.toList[·]?) |>.map (fun c => .text (String.singleton c))
      |>.getD .null)
  | .object fields => .ok ((Value.object fields).field index.toText)
  | _ => .ok .null

def projected (key : String) (v : Value) : Value :=
  .array ((Builtin.itemsOf v).map fun item => item.field key)

def lengthOf : Value → Except EvalError Value
  | .text s => .ok (.number (Double.ofInt s.toList.length))
  | .array items => .ok (.number (Double.ofInt items.length))
  | v => if v.isTruthy then .error (.noLength v.typeName) else .ok (.number 0.0)

/-- The items whose test comes out truthy; the first test that fails decides. -/
def kept (test : Value → Except EvalError Value) : List Value → Except EvalError (List Value)
  | [] => .ok []
  | item :: rest => do
    let verdict ← test item
    let others ← kept test rest
    .ok (if verdict.isTruthy then item :: others else others)

def filtered (test : Value → Except EvalError Value) (source : Value) :
    Except EvalError Value := do
  let items ← kept test (Builtin.itemsOf source)
  .ok (.array items)

def applyUnary : UnaryOp → Value → Value
  | .not, v => .bool !v.isTruthy
  | .negate, v => .number (-v.toNumber)

/-- Texts, arrays and objects are joined by `+`. -/
def joins : Value → Bool
  | .text _ | .array _ | .object _ => true
  | _ => false

def applyBinary (op : BinaryOp) (left right : Value) : Value :=
  match op with
  | .add =>
    if joins left || joins right then .text (left.toText ++ right.toText)
    else .number (left.toNumber + right.toNumber)
  | .subtract => .number (left.toNumber - right.toNumber)
  | .multiply => .number (left.toNumber * right.toNumber)
  | .divide => .number (left.toNumber / right.toNumber)
  | .remainder => .number (Double.remainder left.toNumber right.toNumber)
  | .greater => .bool (left.order? right == some .gt)
  | .atLeast => .bool (left.order? right == some .gt || left.order? right == some .eq)
  | .less => .bool (left.order? right == some .lt)
  | .atMost => .bool (left.order? right == some .lt || left.order? right == some .eq)
  | .equal => .bool (left.loose right)
  | .notEqual => .bool !left.loose right
  | .same => .bool (left.same right)
  | .notSame => .bool !left.same right
  | .and => if left.isTruthy then right else left
  | .or => if left.isTruthy then left else right

mutual

def evaluate (scope : Scope) : Expression → Except EvalError Value
  | literal v => .ok v
  | name n =>
    match scope n with
    | some v => .ok v
    | none => .error (.unknownName n)
  | array items => do
    let values ← evaluateAll scope items
    .ok (.array values)
  | member object property =>
    match constantMember? scope object property with
    | some v => .ok v
    | none => do
      let v ← evaluate scope object
      memberOf property v
  | index object position => do
    let target ← evaluate scope object
    let place ← evaluate scope position
    itemAt place target
  | projection source key => do
    let v ← tolerant scope source (evaluate scope source)
    .ok (projected key v)
  | filter source predicate => do
    let v ← tolerant scope source (evaluate scope source)
    filtered (fun item => evaluate (scope.bind itemName item) predicate) v
  | length operand => do
    let v ← tolerant scope operand (evaluate scope operand)
    lengthOf v
  | call callee args =>
    if callee = "filter" then evaluateFilter scope args
    else
      match Builtin.ofName? callee with
      | none => .error (.unknownFunction callee)
      | some f => do
        let values ← evaluateArgs scope args
        f.apply values
  | lambda _ _ => .error .strayLambda
  | unary op operand => do
    let v ← evaluate scope operand
    .ok (applyUnary op v)
  | binary .and left right => do
    let v ← evaluate scope left
    if v.isTruthy then evaluate scope right else .ok v
  | binary .or left right => do
    let v ← evaluate scope left
    if v.isTruthy then .ok v else evaluate scope right
  | binary op left right => do
    let v ← evaluate scope left
    let w ← evaluate scope right
    .ok (applyBinary op v w)
  | conditional test consequent alternate => do
    let v ← evaluate scope test
    if v.isTruthy then evaluate scope consequent else evaluate scope alternate

def evaluateAll (scope : Scope) : List Expression → Except EvalError (List Value)
  | [] => .ok []
  | e :: es => do
    let v ← evaluate scope e
    let vs ← evaluateAll scope es
    .ok (v :: vs)

def evaluateArgs (scope : Scope) : List Expression → Except EvalError (List Value)
  | [] => .ok []
  | e :: es => do
    let v ← tolerant scope e (evaluate scope e)
    let vs ← evaluateArgs scope es
    .ok (v :: vs)

/-- A call of `filter`: a source and an arrow function that is tested on its items. -/
def evaluateFilter (scope : Scope) : List Expression → Except EvalError Value
  | [source, lambda param body] => do
    let v ← tolerant scope source (evaluate scope source)
    filtered (fun item => evaluate (scope.bind param item) body) v
  | [_, _] => .error .noArrowFunction
  | args => .error (.arity "filter" 2 2 args.length)

end

end Expression

end Stagewise
