import Stagewise.Json.Shape

/-! What can be wrong with a request, found before a model is asked. -/

namespace Stagewise

inductive RequestError where
  /-- The body is no JSON text, or not of the shape of a request. -/
  | invalidJson (detail : String)
  | missingSessionId
  | missingConcernText
  | missingStage
  | unknownStage (name : String)
deriving DecidableEq

def RequestError.message : RequestError → String
  | invalidJson detail => "Request body is not valid JSON: " ++ detail
  | missingSessionId => "Request is missing 'sessionId'"
  | missingConcernText => "Request is missing 'concernText'"
  | missingStage => "Request is missing 'stage'"
  | unknownStage name => "Unrecognized stage '" ++ name ++ "'"

end Stagewise
