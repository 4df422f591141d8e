import Stagewise.RequestError

/-! The stages of a thinking session. -/

namespace Stagewise

inductive Stage where
  | diverge
  | organize
  | converge
  | summary
deriving DecidableEq

namespace Stage

def all : List Stage := [diverge, organize, converge, summary]

def name : Stage → String
  | diverge => "diverge"
  | organize => "organize"
  | converge => "converge"
  | summary => "summary"

def named : List (String × Stage) :=
  all.map fun stage => (stage.name, stage)

def ofName (s : String) : Except RequestError Stage :=
  match named.lookup s with
  | some stage => .ok stage
  | none => .error (.unknownStage s)

def decoder : Decoder Stage :=
  Decoder.variant named

def toJson (stage : Stage) : Json :=
  .text stage.name

/-- What a model is told to do at a stage when it writes prose. -/
def instruction : Stage → String
  | diverge =>
    "Broaden the user's thinking: suggest new ideas, alternative perspectives and questions they " ++
      "have not considered."
  | organize =>
    "Structure and group the ideas collected so far: name the themes, cluster related points and " ++
      "surface priorities."
  | converge =>
    "Help the user narrow down: weigh the strongest options against each other and point toward a " ++
      "decision."
  | summary =>
    "Summarize the session: restate the concern, the key insights and the concrete next steps."

end Stage

end Stagewise
