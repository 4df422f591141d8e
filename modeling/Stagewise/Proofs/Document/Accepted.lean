import Stagewise.Proofs.Document.Acceptance

/-! What an accepted document takes from the raw value, whatever that is: also one with a name twice
in an object, or with more widgets than a word can number. -/

namespace Stagewise

theorem Widget.component_of_decoder {w : Widget} {r : Record Json}
    (h : decoder (.object r) = .ok w) : r.get? "component" = some (.text w.component) :=
  (Fields.ofRecordField_inverts Decoder.text_inverts).mp (readFrom_of_decoder h).component

namespace Document

variable {d : Document} {raw : Json} {eligible : Option (List String)}

theorem required_of_decoder {r : Record Json} (h : decoder (.object r) = .ok d) :
    r.get? "sessionId" = some (.text d.sessionId) ∧
      Fields.ofRecordField (.required "stage" Stage.decoder) r = .ok d.stage ∧
      ∃ json, r.get? "widgets" = some json ∧ Decoder.list Widget.decoder json = .ok d.widgets := by
  have hread := readFrom_of_decoder h
  exact ⟨(Fields.ofRecordField_inverts Decoder.text_inverts).mp hread.sessionId, hread.stage,
    Fields.ofRecordField_required.mp hread.widgets⟩

/-- The component that is read is the one that was checked: a widget is read from an array too, but
only an object has a component. -/
theorem component_of_decoder_fillWidget {i : Nat} {item : Json} {w : Widget}
    (hitem : Widget.HasComponent eligible item)
    (hw : Widget.decoder (fillWidget i item) = .ok w) :
    ∀ ids, eligible = some ids → w.component ∈ ids := by
  obtain ⟨s, hs, -, hids⟩ := hitem
  rw [← field?_fillWidget_component i] at hs
  cases hfilled : fillWidget i item with
  | object r =>
    rw [hfilled] at hs hw
    have hcomponent := (Widget.component_of_decoder hw).symm.trans hs
    rw [Json.text.inj (Option.some.inj hcomponent)]
    exact hids
  | _ =>
    rw [hfilled] at hs
    cases hs

/-- What a document must bring itself is found in the raw value as it is in the document. -/
structure Carries (d : Document) (raw : Json) : Prop where
  sessionId : raw.field? "sessionId" = some (.text d.sessionId)
  stage : raw.field? "stage" = some (.text d.stage.name)

theorem Carries.sessionId_iff (h : d.Carries raw) {s : String} :
    d.sessionId = s ↔ raw.field? "sessionId" = some (.text s) := by
  simp [h.sessionId]

theorem Carries.stage_iff (h : d.Carries raw) {stage : Stage} :
    d.stage = stage ↔ raw.field? "stage" = some (.text stage.name) := by
  have hname : d.stage.name = stage.name ↔ d.stage = stage := by
    cases d.stage <;> cases stage <;> decide
  simp [h.stage, hname]

theorem carries_of_accept (h : accept eligible raw = .ok d) : d.Carries raw := by
  obtain ⟨hvalid, hd⟩ := accept_eq_ok_iff.mp h
  obtain ⟨-, ⟨s, hs, -⟩, -⟩ := violations_fill_eq_nil_iff.mp hvalid
  cases raw with
  | object r =>
    obtain ⟨hsession, hstage, -⟩ := required_of_decoder hd
    have hfilled {name : String} (hne : name ≠ "widgets")
        (hname : name ∉ rootDefaults.map Prod.fst) :
        Record.get? (onField "widgets" fillWidgets (setDefaults r rootDefaults)) name =
          Record.get? r name :=
      field?_fill_of_required (.object r) hne hname
    rw [hfilled (by decide) (by decide)] at hsession
    rw [Stage.ofRecordField_text ((hfilled (by decide) (by decide)).trans hs),
      hfilled (by decide) (by decide)] at hstage
    exact ⟨hsession, hstage⟩
  | _ => cases hs

/-- Every widget was read from a filled raw one that has a component. -/
theorem exists_item_of_accept (h : accept eligible raw = .ok d) :
    d.widgets ≠ [] ∧ ∀ w ∈ d.widgets, ∃ i item,
      Widget.HasComponent eligible item ∧ Widget.decoder (fillWidget i item) = .ok w := by
  obtain ⟨hvalid, hd⟩ := accept_eq_ok_iff.mp h
  obtain ⟨-, -, items, hitems, hne, hcomponents⟩ := violations_fill_eq_nil_iff.mp hvalid
  cases raw with
  | object r =>
    obtain ⟨-, -, filled, hfilled, hwidgets⟩ := required_of_decoder hd
    obtain rfl : fillWidgets (.array items) = filled := by
      have hget := (field?_fill_widgets (.object r)).trans
        (congrArg (Option.map fillWidgets) hitems)
      exact Option.some.inj (hget.symm.trans hfilled)
    obtain ⟨hlength, hread⟩ := Outcome.mapM_eq_ok_iff.mp hwidgets
    rw [List.length_mapIdx] at hlength
    refine ⟨fun hnil => hne (List.eq_nil_of_length_eq_zero (by simp [← hlength, hnil])), ?_⟩
    intro w hw
    obtain ⟨i, hi, rfl⟩ := List.getElem_of_mem hw
    have hitem : i < items.length := hlength ▸ hi
    have hdecode := hread i (fillWidget i items[i]) d.widgets[i] (by simp [hitem]) (by simp)
    exact ⟨i, items[i], hcomponents _ (List.getElem_mem hitem), hdecode⟩
  | _ => cases hitems

theorem widgets_of_accept (h : accept eligible raw = .ok d) :
    d.widgets ≠ [] ∧ ∀ w ∈ d.widgets, ∀ ids, eligible = some ids → w.component ∈ ids := by
  obtain ⟨hne, hitems⟩ := exists_item_of_accept h
  refine ⟨hne, fun w hw => ?_⟩
  obtain ⟨i, item, hcomponent, hdecode⟩ := hitems w hw
  exact component_of_decoder_fillWidget hcomponent hdecode

end Document

end Stagewise
