import Stagewise.Json.Basic

/-! Filling of raw documents: every optional field that is missing or `null` gets a fixed default.
What is there is never touched, and neither are the fields that a document must bring itself. -/

namespace Stagewise

namespace Document

/-- Gives a field its default when it is missing or `null`. -/
def setDefault (r : Record Json) (field : String × Json) : Record Json :=
  match r.get? field.1 with
  | none => r.put field.1 field.2
  | some value => if value.isNull then r.put field.1 field.2 else r

def setDefaults (r : Record Json) (fields : List (String × Json)) : Record Json :=
  fields.foldl setDefault r

def rootDefaults : List (String × Json) :=
  [("oodm", .object []),
   ("dependencyGraph", .ofFields [("nodes", .array []), ("edges", .array [])]),
   ("layout", .ofFields [("type", .text "single")]),
   ("metadata", .object [])]

/-- The defaults of the widget at a place. -/
def widgetDefaults (place : Nat) : List (String × Json) :=
  [("id", .text ("widget-" ++ toString (place + 1))),
   ("position", .int place),
   ("layout", .object []),
   ("config", .object []),
   ("inputs", .array []),
   ("outputs", .array []),
   ("reactiveBindings", .array []),
   ("metadata", .object [])]

def metadataDefaults : List (String × Json) :=
  [("timing", .text "any"),
   ("versatility", .text "medium"),
   ("bottleneck", .array []),
   ("description", .text "")]

/-- A change to the fields of a value that is an object. -/
def onObject (change : Record Json → Record Json) : Json → Json
  | .object r => .object (change r)
  | other => other

/-- A change to the value of a field that is there. -/
def onField (name : String) (change : Json → Json) (r : Record Json) : Record Json :=
  match r.get? name with
  | some value => r.put name (change value)
  | none => r

def fillMetadata : Json → Json :=
  onObject fun r => setDefaults r metadataDefaults

def fillWidget (place : Nat) : Json → Json :=
  onObject fun r => onField "metadata" fillMetadata (setDefaults r (widgetDefaults place))

def fillWidgets : Json → Json
  | .array widgets => .array (widgets.mapIdx fillWidget)
  | other => other

def fill : Json → Json :=
  onObject fun r => onField "widgets" fillWidgets (setDefaults r rootDefaults)

end Document

end Stagewise
