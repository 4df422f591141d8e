import Stagewise.Stage

/-! Catalogs of widgets: what each widget is, which widgets each stage may use, and which of them
can already be displayed. -/

namespace Stagewise

structure WidgetDescriptor where
  id : String
  description : String
  configHint : String
deriving DecidableEq

namespace WidgetDescriptor

def decoder : Decoder WidgetDescriptor :=
  ((((Fields.done WidgetDescriptor.mk).and (.required "id" Decoder.text)).and
    (.required "description" Decoder.text)).and
    (.required "configHint" Decoder.text)).decoder "WidgetDescriptor"

def toJson (d : WidgetDescriptor) : Json :=
  .ofFields
    [("id", .text d.id), ("description", .text d.description), ("configHint", .text d.configHint)]

/-- The widget on one line of a prompt. -/
def line (d : WidgetDescriptor) : String :=
  "- " ++ d.id ++ ": " ++ d.description ++ " (config: " ++ d.configHint ++ ")"

end WidgetDescriptor

structure Catalog where
  widgets : Record WidgetDescriptor
  /-- The widgets of each stage, in their order. -/
  stages : Stage → List String
  implemented : List String

namespace Catalog

def empty : Catalog where
  widgets := []
  stages _ := []
  implemented := []

def addWidget (c : Catalog) (d : WidgetDescriptor) : Catalog :=
  { c with widgets := c.widgets.put d.id d }

/-- Sets the widgets of a stage in place of those it had. -/
def setStage (c : Catalog) (stage : Stage) (ids : List String) : Catalog :=
  { c with stages := fun s => if s = stage then ids else c.stages s }

def addImplemented (c : Catalog) (ids : List String) : Catalog :=
  { c with implemented := c.implemented ++ ids }

def isImplemented (c : Catalog) (id : String) : Bool :=
  c.implemented.contains id

def descriptor? (c : Catalog) (id : String) : Option WidgetDescriptor :=
  c.widgets.get? id

/-- The widgets that a stage may use, or only those that can be displayed. -/
def eligible (c : Catalog) (stage : Stage) (onlyImplemented : Bool) : List String :=
  (c.stages stage).filter fun id => !onlyImplemented || c.isImplemented id

/-- A line for each widget; one that the catalog does not know has only its id. -/
def describe (c : Catalog) (ids : List String) : String :=
  "\n".intercalate (ids.map fun id =>
    match c.descriptor? id with
    | some d => d.line
    | none => "- " ++ id)

end Catalog

end Stagewise
