import Stagewise.Generation.Run

/-! Models that play back a list of replies, one for each call. -/

namespace Stagewise

inductive ScriptedReply where
  /-- What is answered to a call for JSON, as a value or as a text in which one is looked for, and to
  a call for prose. -/
  | reply (json : Option Json) (raw : Option String) (text : Option String)
      (usage : Option TokenUsage)
  | failure (e : ModelError)
  | silence

namespace ScriptedReply

/-- The answer to a call for JSON; it is `null` when the script has none. -/
def answerJson : ScriptedReply → Answer Json
  | reply (some payload) _ _ usage => .reply payload usage
  | reply none (some raw) _ usage =>
    match Reply.extractJson raw with
    | .ok payload => .reply payload usage
    | .error e => .failure e
  | reply none none _ usage => .reply .null usage
  | failure e => .failure e
  | silence => .late

/-- The answer to a call for prose; it is empty when the script has none. -/
def answerText : ScriptedReply → Answer String
  | reply _ _ text usage => .reply (text.getD "") usage
  | failure e => .failure e
  | silence => .late

/-- What a call finds when no reply is left. -/
def exhausted : ModelError := .transport "no scripted reply"

end ScriptedReply

/-- The model that plays back its state. -/
def Model.scripted : Model (List ScriptedReply) where
  json _
    | [] => (.failure ScriptedReply.exhausted, [])
    | reply :: rest => (reply.answerJson, rest)
  text _
    | [] => (.failure ScriptedReply.exhausted, [])
    | reply :: rest => (reply.answerText, rest)
  clock _ := 0

end Stagewise
