import Stagewise.Document.Validation
import Stagewise.Request

/-! The prompts that models are sent: one that asks for a document, what is added to it after a
rejected answer, and one that asks for prose. -/

namespace Stagewise

namespace Prompt

/-- The least and the greatest number of widgets that are asked for. -/
def minWidgets : Nat := 1

def maxWidgets : Nat := 4

def lines (ls : List String) : String :=
  String.join (ls.map fun line => line ++ "\n")

/-- The shape of the wanted document, with its session and stage filled in. -/
def skeleton (r : Request) : String :=
  lines
    ["\x7b",
     "  \"sessionId\": \"" ++ r.sessionId ++ "\",",
     "  \"stage\": \"" ++ r.stage.name ++ "\",",
     "  \"oodm\": \x7b\x7d,",
     "  \"dependencyGraph\": \x7b \"nodes\": [], \"edges\": [] \x7d,",
     "  \"widgets\": [",
     "    \x7b",
     "      \"id\": \"widget-1\",",
     "      \"component\": \"<widget id>\",",
     "      \"position\": 0,",
     "      \"layout\": \x7b\x7d,",
     "      \"config\": \x7b\x7d,",
     "      \"inputs\": [],",
     "      \"outputs\": [],",
     "      \"reactiveBindings\": [],",
     "      \"metadata\": \x7b \"timing\": \"\", \"versatility\": \"\", \"bottleneck\": [], " ++
       "\"description\": \"\" \x7d",
     "    \x7d",
     "  ],",
     "  \"layout\": \x7b \"type\": \"single\" \x7d,",
     "  \"metadata\": \x7b\x7d",
     "\x7d"]

/-- What comes before the skeleton. -/
def introduction (r : Request) (catalogText : String) (eligible : List String) : String :=
  lines
    (["You design the interface for one stage of a structured thinking session.",
      "\nStage: " ++ r.stage.name,
      "Concern:\n" ++ trimmed r.concernText] ++
     (r.factors.map fun factors => "\nFactors:\n" ++ factors.compact).toList ++
     (r.options.bottleneckType.map fun b => "\nPrimary bottleneck: " ++ b).toList ++
     ["\nAvailable widgets (use only these ids as 'component'):",
      catalogText,
      "\nSelect between " ++ toString minWidgets ++ " and " ++ toString maxWidgets ++
        " widgets. Allowed components: " ++ ", ".intercalate eligible ++ ".",
      "Respond with a single JSON object of this shape:"])

/-- Asks for a document made of the eligible widgets. -/
def widget (r : Request) (catalogText : String) (eligible : List String) : String :=
  introduction r catalogText eligible ++ skeleton r

/-- What is added to a prompt after an answer with these violations. -/
def feedback (violations : List Violation) : String :=
  lines
    (["\nYour previous answer was rejected for these reasons:"] ++
     (violations.map fun v => "- " ++ v.message) ++
     ["Return a corrected JSON object."])

def withFeedback (prompt : String) (violations : List Violation) : String :=
  prompt ++ feedback violations

/-- Asks for prose. -/
def text (r : Request) : String :=
  lines
    ([r.stage.instruction,
      "\nConcern:\n" ++ trimmed r.concernText] ++
     (r.options.previousStageResults.map fun previous =>
       "\nResults from earlier stages:\n" ++ previous.pretty).toList ++
     ["\nAnswer in plain prose, without JSON or code blocks."])

end Prompt

end Stagewise
