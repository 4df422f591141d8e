import Stagewise.Stage

/-! Interface documents: the widgets chosen for one stage of a session, how they are laid out and
how they depend on each other. -/

namespace Stagewise

structure WidgetMetadata where
  timing : String
  versatility : String
  bottleneck : List String
  description : String
deriving DecidableEq

structure Widget where
  id : String
  /-- The id of the widget in the catalog. -/
  component : String
  position : UInt32
  layout : Json
  config : Json
  inputs : List Json
  outputs : List Json
  reactiveBindings : List Json
  metadata : WidgetMetadata
deriving DecidableEq

structure Document where
  sessionId : String
  stage : Stage
  oodm : Json
  dependencyGraph : Json
  widgets : List Widget
  layout : Json
  metadata : Json
deriving DecidableEq

namespace WidgetMetadata

def decoder : Decoder WidgetMetadata :=
  (((((Fields.done WidgetMetadata.mk).and (.required "timing" Decoder.text)).and
    (.required "versatility" Decoder.text)).and
    (.required "bottleneck" (Decoder.list Decoder.text))).and
    (.required "description" Decoder.text)).decoder "WidgetMetadata"

def toJson (m : WidgetMetadata) : Json :=
  .ofFields
    [("timing", .text m.timing),
     ("versatility", .text m.versatility),
     ("bottleneck", .array (m.bottleneck.map Json.text)),
     ("description", .text m.description)]

end WidgetMetadata

namespace Widget

def decoder : Decoder Widget :=
  ((((((((((Fields.done Widget.mk).and (.required "id" Decoder.text)).and
    (.required "component" Decoder.text)).and
    (.required "position" Decoder.word32)).and
    (.required "layout" Decoder.raw)).and
    (.required "config" Decoder.raw)).and
    (.required "inputs" (Decoder.list Decoder.raw))).and
    (.required "outputs" (Decoder.list Decoder.raw))).and
    (.required "reactiveBindings" (Decoder.list Decoder.raw))).and
    (.required "metadata" WidgetMetadata.decoder)).decoder "WidgetSpecEntry"

def toJson (w : Widget) : Json :=
  .ofFields
    [("id", .text w.id),
     ("component", .text w.component),
     ("position", .int w.position.toNat),
     ("layout", w.layout),
     ("config", w.config),
     ("inputs", .array w.inputs),
     ("outputs", .array w.outputs),
     ("reactiveBindings", .array w.reactiveBindings),
     ("metadata", w.metadata.toJson)]

end Widget

namespace Document

def decoder : Decoder Document :=
  ((((((((Fields.done Document.mk).and (.required "sessionId" Decoder.text)).and
    (.required "stage" Stage.decoder)).and
    (.required "oodm" Decoder.raw)).and
    (.required "dependencyGraph" Decoder.raw)).and
    (.required "widgets" (Decoder.list Widget.decoder))).and
    (.required "layout" Decoder.raw)).and
    (.required "metadata" Decoder.raw)).decoder "UiSpecDocument"

def toJson (d : Document) : Json :=
  .ofFields
    [("sessionId", .text d.sessionId),
     ("stage", d.stage.toJson),
     ("oodm", d.oodm),
     ("dependencyGraph", d.dependencyGraph),
     ("widgets", .array (d.widgets.map Widget.toJson)),
     ("layout", d.layout),
     ("metadata", d.metadata)]

/-- The catalog ids of the widgets in their order. -/
def components (d : Document) : List String :=
  d.widgets.map Widget.component

end Document

end Stagewise
