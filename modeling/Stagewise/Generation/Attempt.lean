import Stagewise.Document.Acceptance
import Stagewise.Duration
import Stagewise.Reply
import Stagewise.Usage

/-! A single attempt: what a model may answer, and whether the answer is a document that can be
used. -/

namespace Stagewise

/-- What comes of asking a model. -/
inductive Answer (α : Type) where
  | reply (payload : α) (usage : Option TokenUsage)
  | failure (e : ModelError)
  /-- Nothing came before the deadline. -/
  | late

/-- The tokens that came with an answer. Only a reply reports any. -/
def Answer.usage? {α : Type} : Answer α → Option TokenUsage
  | reply _ usage => usage
  | failure _ | late => none

inductive AttemptError where
  | model (e : ModelError)
  | deadline (limit : Duration)
  | notObject (kind : String)
  | rejected (violations : List Violation)
deriving DecidableEq

def AttemptError.message : AttemptError → String
  | model e => e.message
  | deadline limit => "Model call exceeded the attempt deadline of " ++ limit.text
  | notObject kind => "Model payload is not a JSON object (found " ++ kind ++ ")"
  | rejected violations =>
    "Generated document failed validation: " ++ "; ".intercalate (violations.map Violation.message)

/-- What is said of a failed attempt. For an error of the model it is what is said of that error. -/
inductive AttemptError.Says : AttemptError → String → Prop
  | model {e : ModelError} {text : String} (spoken : e.Says text) : Says (.model e) text
  | deadline {limit : Duration} {span : String} (written : limit.Written span) :
      Says (.deadline limit) ("Model call exceeded the attempt deadline of " ++ span)
  | notObject (kind : String) :
      Says (.notObject kind) ("Model payload is not a JSON object (found " ++ kind ++ ")")
  | rejected {violations : List Violation} {texts : String}
      (say : Violation.SayTogether violations texts) :
      Says (.rejected violations) ("Generated document failed validation: " ++ texts)

theorem AttemptError.says_iff {e : AttemptError} {text : String} :
    e.Says text ↔ text = e.message := by
  constructor
  · intro h
    cases h with
    | model spoken => exact ModelError.says_iff.mp spoken
    | deadline written =>
      obtain rfl := Duration.written_iff.mp written
      rfl
    | notObject kind => rfl
    | rejected say =>
      obtain rfl := Violation.sayTogether_iff.mp say
      rfl
  · rintro rfl
    cases e with
    | model e => exact .model (ModelError.says_iff.mpr rfl)
    | deadline limit => exact .deadline (Duration.written_iff.mpr rfl)
    | notObject kind => exact .notObject kind
    | rejected violations => exact .rejected (Violation.sayTogether_iff.mpr rfl)

namespace Answer

/-- The payload of an answer that came in time. -/
def payload {α : Type} (limit : Duration) : Answer α → Except AttemptError α
  | reply payload _ => .ok payload
  | failure e => .error (.model e)
  | late => .error (.deadline limit)

/-- The document of an answer, if it is one that uses eligible widgets only. -/
def document (limit : Duration) (eligible : List String) (answer : Answer Json) :
    Except AttemptError Document := do
  let payload ← answer.payload limit
  if payload.isObject then (Document.accept (some eligible) payload).mapError .rejected
  else .error (.notObject payload.kind)

/-- The summary of an answer: its text without blanks around it, if anything is left. -/
def summary (limit : Duration) (answer : Answer String) : Except AttemptError String := do
  let text ← answer.payload limit
  if isBlankText text then .error (.model .emptyResponse) else .ok (trimmed text)

end Answer

end Stagewise
