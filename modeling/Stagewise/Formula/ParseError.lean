import Stagewise.Formula.Token

/-! What can be wrong with the text of a formula. -/

namespace Stagewise

/-- What the grammar wants at some place. -/
inductive Expected where
  | value
  | endOfExpression
  | conditionalColon
  | dotAfterStar
  | keyName
  | propertyName
  | filterEnd
  | argumentEnd
  | groupEnd
  | arrayEnd
deriving DecidableEq

def Expected.text : Expected → String
  | value => "a value"
  | endOfExpression => "end of expression"
  | conditionalColon => "':' of a conditional"
  | dotAfterStar => "'.' after '.*'"
  | keyName => "a key name after '.*.'"
  | propertyName => "a property name after '.'"
  | filterEnd => "']' closing a filter"
  | argumentEnd => "',' or ')' in argument list"
  | groupEnd => "')'"
  | arrayEnd => "',' or ']' in array literal"

inductive ParseError where
  | empty
  | tooLong (length : Nat) (limit : Nat)
  | tooDeep (limit : Nat)
  | unexpectedCharacter (c : Char) (position : Nat)
  | unterminatedString (position : Nat)
  | invalidNumber (text : String) (position : Nat)
  | unexpectedToken (expected : Expected) (found : TokenKind) (position : Nat)
  | unexpectedEnd (expected : Expected)
  | notCallable (position : Nat)
deriving DecidableEq

def ParseError.message : ParseError → String
  | empty => "Expression is empty"
  | tooLong length limit =>
    "Expression is " ++ toString length ++ " bytes long, the limit is " ++ toString limit
  | tooDeep limit => "Expression nesting exceeds the maximum depth of " ++ toString limit
  | unexpectedCharacter c position =>
    "Unexpected character '" ++ String.singleton c ++ "' at position " ++ toString position
  | unterminatedString position =>
    "Unterminated string literal starting at position " ++ toString position
  | invalidNumber text position =>
    "Invalid number literal '" ++ text ++ "' at position " ++ toString position
  | unexpectedToken expected found position =>
    "Expected " ++ expected.text ++ " at position " ++ toString position ++ ", but found '" ++
      found.show ++ "'"
  | unexpectedEnd expected => "Expected " ++ expected.text ++ ", but the expression ended"
  | notCallable position =>
    "Only named functions can be called (position " ++ toString position ++ ")"

end Stagewise
