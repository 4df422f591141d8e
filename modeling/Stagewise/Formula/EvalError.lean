import Stagewise.Formula.Value

/-! What can go wrong when a formula is evaluated. -/

namespace Stagewise

inductive EvalError where
  | unknownName (name : String)
  | unknownFunction (name : String)
  | arity (function : String) (least most : Nat) (found : Nat)
  | noLength (found : String)
  | noArrowFunction
  | nullAccess (property : String)
  | strayLambda
deriving DecidableEq

namespace EvalError

def mismatch (operation expected found : String) : String :=
  "Type mismatch during '" ++ operation ++ "': expected " ++ expected ++ ", but found " ++ found

def message : EvalError → String
  | unknownName name => "'" ++ name ++ "' is not defined in the data record"
  | unknownFunction name => "'" ++ name ++ "' is not a known function"
  | arity function least most found =>
    "Function '" ++ function ++ "' expects " ++
      (if least = most then toString least else toString least ++ "-" ++ toString most) ++
      " argument(s), but received " ++ toString found
  | noLength found => mismatch "length" "string or array" found
  | noArrowFunction => mismatch "filter" "an arrow function" "expression"
  | nullAccess property => "Cannot read property '" ++ property ++ "' of null"
  | strayLambda => "Arrow functions are only allowed as arguments of filter()"

end EvalError

end Stagewise
