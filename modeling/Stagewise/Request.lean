import Stagewise.Json.Reader
import Stagewise.Stage
import Stagewise.Text.Blank

/-! Requests for a generation, and how they are read and checked. -/

namespace Stagewise

structure RequestOptions where
  /-- Only widgets that can be displayed are proposed. -/
  restrictToImplemented : Bool
  textOnlyMode : Bool
  previousStageResults : Option Json
  bottleneckType : Option String
deriving DecidableEq

structure Request where
  sessionId : String
  concernText : String
  stage : Stage
  factors : Option Json
  options : RequestOptions
deriving DecidableEq

namespace RequestOptions

def standard : RequestOptions where
  restrictToImplemented := true
  textOnlyMode := false
  previousStageResults := none
  bottleneckType := none

def decoder : Decoder RequestOptions :=
  (((((Fields.done RequestOptions.mk).and
    (.withDefault "restrictToImplemented" Decoder.bool true)).and
    (.withDefault "textOnlyMode" Decoder.bool false)).and
    (.optional "previousStageResults" Decoder.raw)).and
    (.optional "bottleneckType" Decoder.text)).decoder "GenerationOptions"

def toJson (o : RequestOptions) : Json :=
  .ofPresent
    [("restrictToImplemented", some (.bool o.restrictToImplemented)),
     ("textOnlyMode", some (.bool o.textOnlyMode)),
     ("previousStageResults", o.previousStageResults),
     ("bottleneckType", o.bottleneckType.map Json.text)]

end RequestOptions

namespace Request

def new (sessionId concernText : String) (stage : Stage) : Request where
  sessionId := sessionId
  concernText := concernText
  stage := stage
  factors := none
  options := RequestOptions.standard

def withFactors (r : Request) (factors : Json) : Request :=
  { r with factors := some factors }

def withOptions (r : Request) (options : RequestOptions) : Request :=
  { r with options := options }

def textOnly (r : Request) : Request :=
  { r with options := { r.options with textOnlyMode := true } }

def decoder : Decoder Request :=
  ((((((Fields.done Request.mk).and (.withDefault "sessionId" Decoder.text "")).and
    (.withDefault "concernText" Decoder.text "")).and
    (.required "stage" Stage.decoder)).and
    (.optional "factors" Decoder.raw)).and
    (.withDefault "options" RequestOptions.decoder RequestOptions.standard)).decoder
      "GenerationRequest"

def toJson (r : Request) : Json :=
  .ofPresent
    [("sessionId", some (.text r.sessionId)),
     ("concernText", some (.text r.concernText)),
     ("stage", some r.stage.toJson),
     ("factors", r.factors),
     ("options", some r.options.toJson)]

/-- A request must name its session and its concern. -/
def validate (r : Request) : Except RequestError Unit :=
  if isBlankText r.sessionId then .error .missingSessionId
  else if isBlankText r.concernText then .error .missingConcernText
  else .ok ()

/-- The stage is looked at before everything else, so that an unknown one is reported by its
name. -/
def checkStage (raw : Json) : Except RequestError Unit :=
  match raw.field? "stage" with
  | none => .error .missingStage
  | some .null => .error .missingStage
  | some (.text name) => (Stage.ofName name).map fun _ => ()
  | some other => .error (.unknownStage other.compact)

def ofJson (raw : Json) : Except RequestError Request := do
  checkStage raw
  let r ← (decoder raw).mapError fun e => .invalidJson e.message
  validate r
  .ok r

/-- The request in a text. -/
def ofText (body : String) : Except RequestError Request :=
  match Json.ofText? body with
  | some raw => ofJson raw
  | none => .error (.invalidJson Json.brokenText)

end Request

end Stagewise
