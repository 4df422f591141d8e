import Stagewise.Document.Fill
import Stagewise.Proofs.Record

/-! The fields of a filled document. An optional field has the value that was given or else its
default, and every other field is as it was. -/

namespace Stagewise

/-- A field that is present and not `null`. -/
def Json.given? (json : Json) (name : String) : Option Json :=
  (json.field? name).filter fun value => !value.isNull

namespace Document

section

variable (r : Record Json)

theorem get?_setDefault_self (name : String) (value : Json) :
    (setDefault r (name, value)).get? name = some (((Json.object r).given? name).getD value) := by
  unfold setDefault Json.given? Json.field?
  cases hget : r.get? name with
  | none => simp [hget]
  | some old =>
    cases hnull : old.isNull with
    | true => simp [hget, hnull, Option.filter]
    | false => simp [hget, hnull, Option.filter]

theorem get?_setDefault_of_ne {field : String × Json} {other : String} (h : other ≠ field.1) :
    (setDefault r field).get? other = r.get? other := by
  unfold setDefault
  split
  · exact Record.get?_put_of_ne r _ h
  · split
    · exact Record.get?_put_of_ne r _ h
    · rfl

theorem get?_setDefaults_of_notMem {fields : List (String × Json)} {name : String}
    (h : name ∉ fields.map Prod.fst) : (setDefaults r fields).get? name = r.get? name := by
  induction fields generalizing r with
  | nil => rfl
  | cons field rest ih =>
    obtain ⟨hfirst, hrest⟩ := not_or.mp fun hm => h (List.mem_cons.mpr hm)
    have hget := ih (setDefault r field) hrest
    exact hget.trans (get?_setDefault_of_ne r hfirst)

theorem get?_setDefaults_of_mem {fields : List (String × Json)} {name : String} {value : Json}
    (hnames : (fields.map Prod.fst).Nodup) (h : (name, value) ∈ fields) :
    (setDefaults r fields).get? name = some (((Json.object r).given? name).getD value) := by
  induction fields generalizing r with
  | nil => cases h
  | cons field rest ih =>
    obtain ⟨hfirst, hrest⟩ := List.nodup_cons.mp hnames
    rcases List.mem_cons.mp h with rfl | hmem
    · exact (get?_setDefaults_of_notMem _ hfirst).trans (get?_setDefault_self r name value)
    · have hne : name ≠ field.1 := fun he =>
        hfirst (he ▸ List.mem_map_of_mem (f := Prod.fst) hmem)
      have hget := ih (setDefault r field) hrest hmem
      have hgiven : (Json.object (setDefault r field)).given? name = (Json.object r).given? name := by
        simp only [Json.given?, Json.field?, get?_setDefault_of_ne r hne]
      rw [hgiven] at hget
      exact hget

theorem get?_onField_self (name : String) (change : Json → Json) :
    (onField name change r).get? name = (r.get? name).map change := by
  unfold onField
  cases hget : r.get? name with
  | none => simpa using hget
  | some value => simp

theorem get?_onField_of_ne {name other : String} (change : Json → Json) (h : other ≠ name) :
    (onField name change r).get? other = r.get? other := by
  unfold onField
  split
  · exact Record.get?_put_of_ne r _ h
  · rfl

end

section

variable {r : Record Json}

theorem distinct_setDefault (h : r.Distinct) (field : String × Json) :
    (setDefault r field).Distinct := by
  unfold setDefault
  split
  · exact h.put _ _
  · split
    · exact h.put _ _
    · exact h

theorem distinct_setDefaults (h : r.Distinct) (fields : List (String × Json)) :
    (setDefaults r fields).Distinct := by
  induction fields generalizing r with
  | nil => exact h
  | cons field rest ih => exact ih (distinct_setDefault h field)

theorem distinct_onField (h : r.Distinct) (name : String) (change : Json → Json) :
    (onField name change r).Distinct := by
  unfold onField
  split
  · exact h.put _ _
  · exact h

end

/-- An optional field of an object of which another field is filled further. -/
theorem get?_filled {defaults : List (String × Json)} {inner name : String}
    {change : Json → Json} {value : Json} (r : Record Json) (hne : name ≠ inner)
    (hnames : (defaults.map Prod.fst).Nodup) (h : (name, value) ∈ defaults) :
    (onField inner change (setDefaults r defaults)).get? name =
      some (((Json.object r).given? name).getD value) := by
  rw [get?_onField_of_ne _ change hne, get?_setDefaults_of_mem r hnames h]

theorem widgetDefaults_names (place : Nat) : ((widgetDefaults place).map Prod.fst).Nodup := by
  simp [widgetDefaults]

theorem field?_fillWidget_component (place : Nat) (widget : Json) :
    (fillWidget place widget).field? "component" = widget.field? "component" := by
  cases widget with
  | object r =>
    change Record.get? (onField "metadata" fillMetadata (setDefaults r (widgetDefaults place))) _ =
      Record.get? r _
    rw [get?_onField_of_ne _ _ (by decide),
      get?_setDefaults_of_notMem r (by simp [widgetDefaults])]
  | _ => rfl

theorem field?_fill_widgets (raw : Json) :
    (fill raw).field? "widgets" = (raw.field? "widgets").map fillWidgets := by
  cases raw with
  | object r =>
    change Record.get? (onField "widgets" fillWidgets (setDefaults r rootDefaults)) _ =
      (Record.get? r _).map _
    rw [get?_onField_self, get?_setDefaults_of_notMem r (by decide)]
  | _ => rfl

/-- What a document must bring itself is left alone. -/
theorem field?_fill_of_required {name : String} (raw : Json) (hne : name ≠ "widgets")
    (h : name ∉ rootDefaults.map Prod.fst) : (fill raw).field? name = raw.field? name := by
  cases raw with
  | object r =>
    change Record.get? (onField "widgets" fillWidgets (setDefaults r rootDefaults)) _ =
      Record.get? r _
    rw [get?_onField_of_ne _ _ hne, get?_setDefaults_of_notMem r h]
  | _ => rfl

end Document

end Stagewise
