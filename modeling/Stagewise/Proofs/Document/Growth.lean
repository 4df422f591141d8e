import Mathlib.Data.List.Forall2
import Stagewise.Document.Validation
import Stagewise.Proofs.Document.Filled

/-! What filling may do to a document. Every field that was given is still there, at any depth, and
only optional fields are new. No rule asks for an optional field, so the same rules are broken as
before. -/

namespace Stagewise

/-- From one value to another that has gained optional fields. A field that was given may have grown
in turn, as told for its name; one that is not optional is not added, nor put in place of a `null`.
Only objects gain anything. -/
structure Json.Grows (optional : List String) (inner : String → Json → Json → Prop)
    (before after : Json) : Prop where
  other : before.isObject = false → after = before
  object : before.isObject = true → after.isObject = true
  given : ∀ name value, before.given? name = some value →
    ∃ grown, after.field? name = some grown ∧ inner name value grown
  notGiven : ∀ name, before.given? name = none → name ∉ optional →
    after.field? name = before.field? name

theorem Json.eq_null_of_notGiven {raw value : Json} {name : String} (h : raw.given? name = none)
    (hvalue : raw.field? name = some value) : value = .null := by
  by_contra hne
  have hgiven := given?_eq_some_iff.mpr ⟨hvalue, hne⟩
  cases h.symm.trans hgiven

def WidgetMetadata.Grows (before after : Json) : Prop :=
  before.Grows ["timing", "versatility", "bottleneck", "description"]
    (fun _ value grown => grown = value) after

structure Widget.Grows (before after : Json) : Prop where
  fields : before.Grows ["id", "position", "layout", "config", "inputs", "outputs",
      "reactiveBindings", "metadata"]
    (fun name value grown =>
      if name = "metadata" then WidgetMetadata.Grows value grown else grown = value) after
  component : after.field? "component" = before.field? "component"

/-- The widgets keep their number and their order; what is no array of widgets is left alone. -/
inductive Document.WidgetsGrow : Json → Json → Prop
  | items {items grown : List Json} (h : List.Forall₂ Widget.Grows items grown) :
      WidgetsGrow (.array items) (.array grown)
  | other {value : Json} (h : ∀ items, value ≠ .array items) : WidgetsGrow value value

structure Document.Grows (before after : Json) : Prop where
  fields : before.Grows ["oodm", "dependencyGraph", "layout", "metadata"]
    (fun name value grown =>
      if name = "widgets" then WidgetsGrow value grown else grown = value) after
  sessionId : after.field? "sessionId" = before.field? "sessionId"
  stage : after.field? "stage" = before.field? "stage"

namespace Document

section

variable {r : Record Json} {fields : List (String × Json)} {name inner : String}
  {change : Json → Json} {within : String → Json → Json → Prop}

theorem get?_setDefaults_of_given (hnames : (fields.map Prod.fst).Nodup) {value : Json}
    (h : (Json.object r).given? name = some value) :
    (setDefaults r fields).get? name = some value := by
  by_cases hname : name ∈ fields.map Prod.fst
  · obtain ⟨⟨name, default⟩, hmem, rfl⟩ := List.mem_map.mp hname
    rw [get?_setDefaults_of_mem r hnames hmem, h, Option.getD_some]
  · rw [get?_setDefaults_of_notMem r hname]
    exact (Json.given?_eq_some_iff.mp h).1

theorem grows_setDefaults (hnames : (fields.map Prod.fst).Nodup) (raw : Json) :
    raw.Grows (fields.map Prod.fst) (fun _ value grown => grown = value)
      (onObject (fun r => setDefaults r fields) raw) := by
  cases raw with
  | object r =>
    exact {
      other := nofun
      object := fun _ => rfl
      given := fun _ value hgiven => ⟨value, get?_setDefaults_of_given hnames hgiven, rfl⟩
      notGiven := fun _ _ hname => get?_setDefaults_of_notMem r hname }
  | _ => exact ⟨fun _ => rfl, nofun, nofun, fun _ _ _ => rfl⟩

/-- An object that gains fields, and of which the value of one field grows further. -/
theorem grows_filled (hnames : (fields.map Prod.fst).Nodup) (hnull : change .null = .null)
    (hinner : ∀ value, within inner value (change value))
    (hother : ∀ name value, name ≠ inner → within name value value) (raw : Json) :
    raw.Grows (fields.map Prod.fst) within
      (onObject (fun r => onField inner change (setDefaults r fields)) raw) := by
  cases raw with
  | object r =>
    refine ⟨nofun, fun _ => rfl, fun name value hgiven => ?_, fun name hgiven hname => ?_⟩
    · have hget := get?_setDefaults_of_given hnames hgiven
      by_cases he : name = inner
      · subst he
        have hself := get?_onField_self (setDefaults r fields) name change
        rw [hget, Option.map_some] at hself
        exact ⟨change value, hself, hinner value⟩
      · have hsame := get?_onField_of_ne (setDefaults r fields) change he
        exact ⟨value, hsame.trans hget, hother name value he⟩
    · have hget := get?_setDefaults_of_notMem r hname
      by_cases he : name = inner
      · subst he
        have hself := get?_onField_self (setDefaults r fields) name change
        rw [hget] at hself
        refine hself.trans ?_
        cases hvalue : Record.get? r name with
        | none => exact hvalue.symm
        | some value =>
          obtain rfl := Json.eq_null_of_notGiven hgiven hvalue
          exact (congrArg some hnull).trans hvalue.symm
      · exact (get?_onField_of_ne (setDefaults r fields) change he).trans hget
  | _ => exact ⟨fun _ => rfl, nofun, nofun, fun _ _ _ => rfl⟩

end

theorem grows_fillMetadata (value : Json) : WidgetMetadata.Grows value (fillMetadata value) := by
  have hnames : (metadataDefaults.map Prod.fst).Nodup := by decide
  exact grows_setDefaults hnames value

theorem grows_fillWidget (place : Nat) (widget : Json) :
    Widget.Grows widget (fillWidget place widget) where
  fields := grows_filled (widgetDefaults_names place) rfl
    (fun value => by simpa using grows_fillMetadata value)
    (fun name value hname => by simp [hname]) widget
  component := field?_fillWidget_component place widget

theorem widgetsGrow_fillWidgets (value : Json) : WidgetsGrow value (fillWidgets value) := by
  cases value with
  | array items =>
    refine .items (List.forall₂_iff_get.mpr ⟨by simp, fun i hi hi' => ?_⟩)
    simpa using grows_fillWidget i items[i]
  | _ => exact .other nofun

theorem grows_fill (raw : Json) : Grows raw (fill raw) where
  fields := by
    have hnames : (rootDefaults.map Prod.fst).Nodup := by decide
    have hnull : fillWidgets .null = .null := rfl
    exact grows_filled hnames hnull (fun value => by simpa using widgetsGrow_fillWidgets value)
      (fun name value hname => by simp [hname]) raw
  sessionId := field?_fill_of_required raw (by decide) (by decide)
  stage := field?_fill_of_required raw (by decide) (by decide)

variable {eligible : Option (List String)} {before after : Json}

theorem requireText_congr {name : String} {v : Violation}
    (h : after.field? name = before.field? name) :
    requireText after name v = requireText before name v := by
  unfold requireText presentText?
  rw [h]

theorem widgetViolations_of_grows (h : Widget.Grows before after) (index : Nat) :
    widgetViolations eligible index after = widgetViolations eligible index before := by
  unfold widgetViolations presentText?
  rw [h.component]

theorem widgetsViolations_of_widgetsGrow (h : WidgetsGrow before after) :
    widgetsViolations eligible (some after) = widgetsViolations eligible (some before) := by
  cases h with
  | other => rfl
  | @items items grown h =>
    obtain ⟨hlength, hitems⟩ := List.forall₂_iff_get.mp h
    have hviolations : grown.mapIdx (widgetViolations eligible) =
        items.mapIdx (widgetViolations eligible) := by
      refine List.ext_getElem (by simp [hlength]) fun i hi hi' => ?_
      simp only [List.length_mapIdx] at hi hi'
      simpa using widgetViolations_of_grows (hitems i hi' hi) i
    cases h with
    | nil => rfl
    | cons => exact congrArg List.flatten hviolations

/-- What a document gains by growing is nothing to the rules. -/
theorem violations_of_grows (h : Grows before after) :
    violations eligible after = violations eligible before := by
  have hwidgets : widgetsViolations eligible (after.field? "widgets") =
      widgetsViolations eligible (before.field? "widgets") := by
    cases hgiven : before.given? "widgets" with
    | none => rw [h.fields.notGiven "widgets" hgiven (by decide)]
    | some value =>
      obtain ⟨grown, hgrown, hgrows⟩ := h.fields.given "widgets" value hgiven
      rw [hgrown, (Json.given?_eq_some_iff.mp hgiven).1]
      exact widgetsViolations_of_widgetsGrow (by simpa using hgrows)
  rw [violations, violations, requireText_congr h.sessionId, requireText_congr h.stage, hwidgets]

/-- Filling leaves no optional field open, takes nothing away, and neither hides a violation nor
causes one. -/
theorem fill_only_adds (raw : Json) :
    Filled (fill raw) ∧ Grows raw (fill raw) ∧
      ∀ eligible, violations eligible (fill raw) = violations eligible raw :=
  ⟨filled_fill raw, grows_fill raw, fun _ => violations_of_grows (grows_fill raw)⟩

end Document

end Stagewise
