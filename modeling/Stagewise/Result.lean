import Stagewise.Document.Basic
import Stagewise.Usage

/-! Results of generations: a document, a text summary, or the reason why there is neither. -/

namespace Stagewise

inductive Mode where
  | widget
  | text
deriving DecidableEq

namespace Mode

def name : Mode → String
  | widget => "widget"
  | text => "text"

def decoder : Decoder Mode :=
  Decoder.variant [(widget.name, widget), (text.name, text)]

def toJson (m : Mode) : Json :=
  .text m.name

end Mode

structure GenerationResult where
  success : Bool
  mode : Mode
  uiSpec : Option Document
  textSummary : Option String
  retryCount : UInt32
  error : Option String
  metrics : Option GenerationMetrics
deriving DecidableEq

namespace GenerationResult

def ofDocument (document : Document) (retryCount : UInt32) (metrics : GenerationMetrics) :
    GenerationResult where
  success := true
  mode := .widget
  uiSpec := some document
  textSummary := none
  retryCount := retryCount
  error := none
  metrics := some metrics

def ofSummary (summary : String) (metrics : GenerationMetrics) : GenerationResult where
  success := true
  mode := .text
  uiSpec := none
  textSummary := some summary
  retryCount := 0
  error := none
  metrics := some metrics

def failure (mode : Mode) (retryCount : UInt32) (error : String) (metrics : GenerationMetrics) :
    GenerationResult where
  success := false
  mode := mode
  uiSpec := none
  textSummary := none
  retryCount := retryCount
  error := some error
  metrics := some metrics

def decoder : Decoder GenerationResult :=
  ((((((((Fields.done GenerationResult.mk).and (.required "success" Decoder.bool)).and
    (.required "mode" Mode.decoder)).and
    (.optional "uiSpec" Document.decoder)).and
    (.optional "textSummary" Decoder.text)).and
    (.required "retryCount" Decoder.word32)).and
    (.optional "error" Decoder.text)).and
    (.optional "metrics" GenerationMetrics.decoder)).decoder "GenerationResult"

def toJson (r : GenerationResult) : Json :=
  .ofPresent
    [("success", some (.bool r.success)),
     ("mode", some r.mode.toJson),
     ("uiSpec", r.uiSpec.map Document.toJson),
     ("textSummary", r.textSummary.map Json.text),
     ("retryCount", some (.int r.retryCount.toNat)),
     ("error", r.error.map Json.text),
     ("metrics", r.metrics.map GenerationMetrics.toJson)]

end GenerationResult

end Stagewise
