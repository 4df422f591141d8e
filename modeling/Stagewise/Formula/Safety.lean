import Stagewise.Formula.Basic

/-! The check of formulas that are written into a catalog: some words are refused before the text is
parsed. Evaluation does not depend on it. -/

namespace Stagewise

namespace Formula

def forbiddenWords : List String :=
  ["eval(", "Function(", "setTimeout", "setInterval", "XMLHttpRequest", "fetch(", "import(",
    "require(", "__proto__", "constructor", "prototype"]

/-- The word occurs somewhere in the text. -/
def occursIn (word : List Char) : List Char → Bool
  | [] => word.isEmpty
  | c :: cs => word.isPrefixOf (c :: cs) || occursIn word cs

/-- The first forbidden word of the list that occurs. -/
def forbiddenWord? (source : String) : Option String :=
  forbiddenWords.find? fun word => occursIn word.toList source.toList

def isSafe (source : String) : Bool :=
  (forbiddenWord? source).isNone

inductive AdmissionError where
  | forbidden (word : String)
  | parse (e : ParseError)

def AdmissionError.message : AdmissionError → String
  | forbidden word => "Expression contains the forbidden token '" ++ word ++ "'"
  | parse e => e.message

def admit? (source : String) : Except AdmissionError Unit :=
  match forbiddenWord? source with
  | some word => .error (.forbidden word)
  | none =>
    match parseExpression source with
    | .ok _ => .ok ()
    | .error e => .error (.parse e)

end Formula

end Stagewise
