import Stagewise.Proofs.Document.Filling

/-! Raw values in which no optional field is open. Filling gives such values and leaves them as they
are, so it has nothing to do a second time. -/

namespace Stagewise

/-- The fields are present and not `null`, if the value is an object. -/
def Json.Gives (json : Json) (names : List String) : Prop :=
  json.isObject = true → ∀ name ∈ names, (json.given? name).isSome = true

structure Widget.Filled (raw : Json) : Prop where
  fields : raw.Gives ["id", "position", "layout", "config", "inputs", "outputs",
    "reactiveBindings", "metadata"]
  metadata : ∀ value, raw.field? "metadata" = some value →
    value.Gives ["timing", "versatility", "bottleneck", "description"]

structure Document.Filled (raw : Json) : Prop where
  fields : raw.Gives ["oodm", "dependencyGraph", "layout", "metadata"]
  widgets : ∀ items, raw.field? "widgets" = some (.array items) →
    ∀ item ∈ items, Widget.Filled item

namespace Json

variable {json : Json} {name : String}

theorem given?_eq_some_iff {value : Json} :
    json.given? name = some value ↔ json.field? name = some value ∧ value ≠ .null := by
  have hnull : (!value.isNull) = true ↔ value ≠ .null := by
    cases value <;> simp [isNull]
  rw [given?, Option.filter_eq_some_iff, hnull]

theorem isSome_given?_iff :
    (json.given? name).isSome = true ↔ ∃ value, json.field? name = some value ∧ value ≠ .null := by
  simp only [Option.isSome_iff_exists, given?_eq_some_iff]

end Json

namespace Document

section

variable {r : Record Json} {fields : List (String × Json)} {name inner : String}
  {change : Json → Json}

theorem setDefault_eq_self {field : String × Json}
    (h : ((Json.object r).given? field.1).isSome = true) : setDefault r field = r := by
  obtain ⟨value, hvalue, hne⟩ := Json.isSome_given?_iff.mp h
  have hget : r.get? field.1 = some value := hvalue
  cases value with
  | null => exact absurd rfl hne
  | _ => simp [setDefault, hget, Json.isNull]

theorem setDefaults_eq_self
    (h : ∀ name ∈ fields.map Prod.fst, ((Json.object r).given? name).isSome = true) :
    setDefaults r fields = r := by
  induction fields with
  | nil => rfl
  | cons field rest ih =>
    have hfirst := setDefault_eq_self (h field.1 (by simp))
    have hrest := ih fun name hname => h name (.tail _ hname)
    simpa only [setDefaults, List.foldl_cons, hfirst] using hrest

theorem onField_eq_self (h : ∀ value, r.get? inner = some value → change value = value) :
    onField inner change r = r := by
  unfold onField
  split
  · rename_i value hvalue
    rw [h value hvalue]
    exact Record.put_eq_self hvalue
  · rfl

theorem isSome_given?_setDefaults (hnames : (fields.map Prod.fst).Nodup)
    (hvalues : ∀ field ∈ fields, field.2 ≠ .null) (h : name ∈ fields.map Prod.fst) :
    ((Json.object (setDefaults r fields)).given? name).isSome = true := by
  obtain ⟨⟨name, value⟩, hmem, rfl⟩ := List.mem_map.mp h
  have hget := get?_setDefaults_of_mem r hnames hmem
  refine Json.isSome_given?_iff.mpr ⟨_, hget, ?_⟩
  cases hgiven : (Json.object r).given? name with
  | none => exact hvalues _ hmem
  | some old => exact (Json.given?_eq_some_iff.mp hgiven).2

theorem isSome_given?_onField (hchange : ∀ value, value ≠ .null → change value ≠ .null)
    (h : ((Json.object r).given? name).isSome = true) :
    ((Json.object (onField inner change r)).given? name).isSome = true := by
  obtain ⟨value, hvalue, hne⟩ := Json.isSome_given?_iff.mp h
  have hget : r.get? name = some value := hvalue
  by_cases hname : name = inner
  · subst hname
    have hself := get?_onField_self r name change
    rw [hget, Option.map_some] at hself
    exact Json.isSome_given?_iff.mpr ⟨change value, hself, hchange value hne⟩
  · have hother := get?_onField_of_ne r change hname
    exact Json.isSome_given?_iff.mpr ⟨value, hother.trans hget, hne⟩

/-- An object that is filled, and in which the value of one field is filled further. -/
theorem gives_filled (hnames : (fields.map Prod.fst).Nodup)
    (hvalues : ∀ field ∈ fields, field.2 ≠ .null)
    (hchange : ∀ value, value ≠ .null → change value ≠ .null) (raw : Json) :
    (onObject (fun r => onField inner change (setDefaults r fields)) raw).Gives
      (fields.map Prod.fst) := by
  cases raw with
  | object r =>
    intro _ name hname
    exact isSome_given?_onField hchange (isSome_given?_setDefaults hnames hvalues hname)
  | _ => exact fun hobject => nomatch hobject

theorem filled_eq_self {raw : Json} (hfields : raw.Gives (fields.map Prod.fst))
    (hinner : ∀ value, raw.field? inner = some value → change value = value) :
    onObject (fun r => onField inner change (setDefaults r fields)) raw = raw := by
  cases raw with
  | object r =>
    have hdefaults : setDefaults r fields = r := setDefaults_eq_self (hfields rfl)
    simp only [onObject, hdefaults, onField_eq_self hinner]
  | _ => rfl

end

theorem onObject_ne_null {change : Record Json → Record Json} {value : Json}
    (h : value ≠ .null) : onObject change value ≠ .null := by
  cases value with
  | null => exact absurd rfl h
  | _ => simp [onObject]

theorem fillWidgets_ne_null {value : Json} (h : value ≠ .null) : fillWidgets value ≠ .null := by
  cases value with
  | null => exact absurd rfl h
  | _ => simp [fillWidgets]

theorem gives_fillMetadata (value : Json) :
    (fillMetadata value).Gives ["timing", "versatility", "bottleneck", "description"] := by
  cases value with
  | object r =>
    intro _ name hname
    exact isSome_given?_setDefaults (by decide) (by simp [metadataDefaults]) hname
  | _ => exact fun hobject => nomatch hobject

theorem fillMetadata_eq_self {value : Json}
    (h : value.Gives ["timing", "versatility", "bottleneck", "description"]) :
    fillMetadata value = value := by
  cases value with
  | object r => exact congrArg Json.object (setDefaults_eq_self (h rfl))
  | _ => rfl

theorem filled_fillWidget (place : Nat) (widget : Json) : Widget.Filled (fillWidget place widget) where
  fields := gives_filled (widgetDefaults_names place) (by simp [widgetDefaults])
    (fun _ => onObject_ne_null) widget
  metadata value hvalue := by
    cases widget with
    | object r =>
      have hget := get?_onField_self (setDefaults r (widgetDefaults place)) "metadata" fillMetadata
      obtain ⟨old, -, rfl⟩ := Option.map_eq_some_iff.mp (hget.symm.trans hvalue)
      exact gives_fillMetadata old
    | _ => cases hvalue

theorem fillWidget_eq_self {widget : Json} (h : Widget.Filled widget) (place : Nat) :
    fillWidget place widget = widget := by
  have hfields : widget.Gives ((widgetDefaults place).map Prod.fst) := h.fields
  exact filled_eq_self hfields fun value hvalue => fillMetadata_eq_self (h.metadata value hvalue)

theorem filled_fill (raw : Json) : Filled (fill raw) where
  fields := gives_filled (by decide) (by simp [rootDefaults, Json.ofFields])
    (fun _ => fillWidgets_ne_null) raw
  widgets items hitems item hitem := by
    rw [field?_fill_widgets] at hitems
    obtain ⟨value, -, hvalue⟩ := Option.map_eq_some_iff.mp hitems
    cases value with
    | array old =>
      obtain rfl := Json.array.inj hvalue
      obtain ⟨i, hi, rfl⟩ := List.mem_mapIdx.mp hitem
      exact filled_fillWidget i old[i]
    | _ => cases hvalue

theorem fillWidgets_eq_self {items : List Json} (h : ∀ item ∈ items, Widget.Filled item) :
    fillWidgets (.array items) = .array items := by
  have hitem (i : Nat) (hi : i < items.length) : fillWidget i items[i] = items[i] :=
    fillWidget_eq_self (h _ (List.getElem_mem hi)) i
  have hitems : items.mapIdx fillWidget = items :=
    List.ext_getElem (by simp) fun i _ hi => by simp [hitem i hi]
  rw [fillWidgets, hitems]

theorem fill_eq_self {raw : Json} (h : Filled raw) : fill raw = raw := by
  have hfields : raw.Gives (rootDefaults.map Prod.fst) := h.fields
  refine filled_eq_self hfields fun value hvalue => ?_
  cases value with
  | array items => exact fillWidgets_eq_self (h.widgets items hvalue)
  | _ => rfl

/-- Exactly the values with no optional field open are left as they are. -/
theorem fill_idempotent (raw : Json) :
    fill (fill raw) = fill raw ∧ (fill raw = raw ↔ Filled raw) := by
  refine ⟨fill_eq_self (filled_fill raw), fun h => ?_, fill_eq_self⟩
  rw [← h]
  exact filled_fill raw

end Document

end Stagewise
