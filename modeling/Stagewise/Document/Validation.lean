import Stagewise.Json.Basic
import Stagewise.Text.Blank

/-! Validation of raw documents. Every violation is reported, those of the document first and then
those of its widgets in their order. -/

namespace Stagewise

inductive Violation where
  | missingSessionId
  | missingStage
  | missingWidgets
  | emptyWidgets
  | missingComponent (index : Nat)
  | ineligibleComponent (index : Nat) (component : String)
  /-- The document passes the other checks but does not fit its type. -/
  | malformed (detail : String)
deriving DecidableEq

def Violation.message : Violation → String
  | missingSessionId => "missing sessionId"
  | missingStage => "missing stage"
  | missingWidgets => "missing widgets array"
  | emptyWidgets => "widgets array is empty"
  | missingComponent index => "widget " ++ toString index ++ " is missing 'component'"
  | ineligibleComponent index component =>
    "widget " ++ toString index ++ " uses component '" ++ component ++
      "', which is not eligible at this stage"
  | malformed detail => "document does not match the expected shape: " ++ detail

/-- What is said of a violation. -/
inductive Violation.Says : Violation → String → Prop
  | missingSessionId : Says .missingSessionId "missing sessionId"
  | missingStage : Says .missingStage "missing stage"
  | missingWidgets : Says .missingWidgets "missing widgets array"
  | emptyWidgets : Says .emptyWidgets "widgets array is empty"
  | missingComponent (index : Nat) :
      Says (.missingComponent index) ("widget " ++ toString index ++ " is missing 'component'")
  | ineligibleComponent (index : Nat) (component : String) :
      Says (.ineligibleComponent index component)
        ("widget " ++ toString index ++ " uses component '" ++ component ++
          "', which is not eligible at this stage")
  | malformed (detail : String) :
      Says (.malformed detail) ("document does not match the expected shape: " ++ detail)

/-- What is said of violations: what is said of each, in their order and with semicolons between. -/
inductive Violation.SayTogether : List Violation → String → Prop
  | none : SayTogether [] ""
  | one {v : Violation} {text : String} (spoken : v.Says text) : SayTogether [v] text
  | more {v w : Violation} {others : List Violation} {text texts : String} (spoken : v.Says text)
      (rest : SayTogether (w :: others) texts) :
      SayTogether (v :: w :: others) (text ++ "; " ++ texts)

theorem Violation.says_iff {v : Violation} {text : String} : v.Says text ↔ text = v.message := by
  constructor
  · intro h
    cases h <;> rfl
  · rintro rfl
    cases v <;> constructor

theorem Violation.sayTogether_iff {violations : List Violation} {text : String} :
    SayTogether violations text ↔ text = "; ".intercalate (violations.map message) := by
  constructor
  · intro h
    induction h with
    | none => rfl
    | one spoken => exact says_iff.mp spoken
    | more spoken _ ih =>
      rw [List.map_cons, List.map_cons, String.intercalate_cons_cons, ← List.map_cons, ← ih,
        says_iff.mp spoken, String.append_assoc]
  · rintro rfl
    induction violations with
    | nil => exact .none
    | cons v others ih =>
      cases others with
      | nil => exact .one (says_iff.mpr String.intercalate_singleton)
      | cons w others =>
        rw [List.map_cons, List.map_cons, String.intercalate_cons_cons]
        exact .more (says_iff.mpr rfl) ih

namespace Document

/-- The text of a field, if it has one that is not blank. -/
def presentText? (json : Json) (name : String) : Option String :=
  ((json.field? name).bind Json.text?).filter fun s => !isBlankText s

def requireText (json : Json) (name : String) (v : Violation) : List Violation :=
  if (presentText? json name).isSome then [] else [v]

/-- What is wrong with the widget at a place. -/
def widgetViolations (eligible : Option (List String)) (index : Nat) (widget : Json) :
    List Violation :=
  match presentText? widget "component" with
  | none => [.missingComponent index]
  | some component =>
    match eligible with
    | none => []
    | some ids =>
      if ids.contains component then [] else [.ineligibleComponent index component]

def widgetsViolations (eligible : Option (List String)) : Option Json → List Violation
  | some (.array []) => [.emptyWidgets]
  | some (.array widgets) => (widgets.mapIdx (widgetViolations eligible)).flatten
  | _ => [.missingWidgets]

/-- The violations of a document. With a list of eligible ids every component must be one of
them. -/
def violations (eligible : Option (List String)) (json : Json) : List Violation :=
  requireText json "sessionId" .missingSessionId ++
    requireText json "stage" .missingStage ++
    widgetsViolations eligible (json.field? "widgets")

end Document

end Stagewise
