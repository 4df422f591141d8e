import Stagewise.Json.Reader
import Stagewise.Text.Blank

/-! Replies of models: what can go wrong with one, and how the JSON object is found in it. -/

namespace Stagewise

inductive ModelError where
  | transport (detail : String)
  | status (code : Nat) (body : String)
  | emptyResponse
  | invalidJson (detail : String)
deriving DecidableEq

def ModelError.message : ModelError → String
  | transport detail => "Model transport failed: " ++ detail
  | status code body => "Model endpoint returned status " ++ toString code ++ ": " ++ body
  | emptyResponse => "Model returned an empty response"
  | invalidJson detail => "Model response is not valid JSON: " ++ detail

/-- What is said of an error of a model. -/
inductive ModelError.Says : ModelError → String → Prop
  | transport (detail : String) :
      Says (.transport detail) ("Model transport failed: " ++ detail)
  | status (code : Nat) (body : String) :
      Says (.status code body) ("Model endpoint returned status " ++ toString code ++ ": " ++ body)
  | emptyResponse : Says .emptyResponse "Model returned an empty response"
  | invalidJson (detail : String) :
      Says (.invalidJson detail) ("Model response is not valid JSON: " ++ detail)

theorem ModelError.says_iff {e : ModelError} {text : String} : e.Says text ↔ text = e.message := by
  constructor
  · intro h
    cases h <;> rfl
  · rintro rfl
    cases e <;> constructor

namespace Reply

/-- From the first opening brace to the last closing one after it. -/
def braced (cs : List Char) : List Char :=
  ((cs.dropWhile (· ≠ '\x7b')).reverse.dropWhile (· ≠ '\x7d')).reverse

/-- The JSON value of a reply: the whole of it, or what stands between its outermost braces. -/
def extractChars (cs : List Char) : Except ModelError Json :=
  if cs.isEmpty then .error .emptyResponse
  else
    match Json.ofChars? cs with
    | some json => .ok json
    | none =>
      if (braced cs).isEmpty then .error (.invalidJson "no JSON object found in model reply")
      else
        match Json.ofChars? (braced cs) with
        | some json => .ok json
        | none => .error (.invalidJson Json.brokenText)

def extractJson (reply : String) : Except ModelError Json :=
  extractChars (trimBlanks reply.toList)

end Reply

end Stagewise
