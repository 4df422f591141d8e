import Stagewise.Proofs.Document.Accepted
import Stagewise.Proofs.Document.Filled
import Stagewise.Proofs.Json.RoundTrip

/-! Documents that are written and read again. One that was accepted has no field open and breaks no
rule, so the same gate lets it pass as it is. -/

namespace Stagewise

theorem Stage.decoder_recovers : decoder.Recovers toJson :=
  fun _ => decoder_text.mpr rfl

theorem WidgetMetadata.decoder_recovers : decoder.Recovers toJson := by
  rintro ⟨timing, versatility, bottleneck, description⟩
  have hbottleneck := Decoder.list_recovers Decoder.text_inverts.recovers bottleneck
  refine Fields.Makes.decoder_ofFields ?_ (by simp)
  refine .required ?_ rfl (Decoder.text_inverts.recovers description)
  refine .required ?_ rfl hbottleneck
  refine .required ?_ rfl (Decoder.text_inverts.recovers versatility)
  refine .required ?_ rfl (Decoder.text_inverts.recovers timing)
  exact Fields.makes_done _

theorem Widget.decoder_recovers : decoder.Recovers toJson := by
  rintro ⟨id, component, position, layout, config, inputs, outputs, bindings, metadata⟩
  refine Fields.Makes.decoder_ofFields ?_ (by simp)
  refine .required ?_ rfl (WidgetMetadata.decoder_recovers metadata)
  refine .required ?_ rfl (Decoder.rawList_inverts.recovers bindings)
  refine .required ?_ rfl (Decoder.rawList_inverts.recovers outputs)
  refine .required ?_ rfl (Decoder.rawList_inverts.recovers inputs)
  refine .required ?_ rfl (Decoder.raw_inverts.recovers config)
  refine .required ?_ rfl (Decoder.raw_inverts.recovers layout)
  refine .required ?_ rfl (Decoder.word32_inverts.recovers position)
  refine .required ?_ rfl (Decoder.text_inverts.recovers component)
  refine .required ?_ rfl (Decoder.text_inverts.recovers id)
  exact Fields.makes_done _

theorem Document.decoder_recovers : decoder.Recovers toJson := by
  rintro ⟨sessionId, stage, oodm, graph, widgets, layout, metadata⟩
  have hwidgets := Decoder.list_recovers Widget.decoder_recovers widgets
  refine Fields.Makes.decoder_ofFields ?_ (by simp)
  refine .required ?_ rfl (Decoder.raw_inverts.recovers metadata)
  refine .required ?_ rfl (Decoder.raw_inverts.recovers layout)
  refine .required ?_ rfl hwidgets
  refine .required ?_ rfl (Decoder.raw_inverts.recovers graph)
  refine .required ?_ rfl (Decoder.raw_inverts.recovers oodm)
  refine .required ?_ rfl (Stage.decoder_recovers stage)
  refine .required ?_ rfl (Decoder.text_inverts.recovers sessionId)
  exact Fields.makes_done _

theorem Json.gives_ofFields {fields : List (String × Json)} {names : List String}
    (hnames : (fields.map Prod.fst).Nodup)
    (h : ∀ name ∈ names, ∃ value, Record.get? fields name = some value ∧ value ≠ .null) :
    (ofFields fields).Gives names := by
  intro _ name hname
  obtain ⟨value, hvalue, hne⟩ := h name hname
  exact isSome_given?_iff.mpr ⟨value, (field?_ofFields hnames name).trans hvalue, hne⟩

/-- What a filled object is read as in a field of any form. -/
theorem Json.Gives.ne_null {r : Record Json} {names : List String} {name : String} {value : Json}
    (h : (Json.object r).Gives names) (hname : name ∈ names)
    (hread : Fields.ofRecordField (.required name Decoder.raw) r = .ok value) : value ≠ .null := by
  obtain ⟨given, hgiven, hne⟩ := isSome_given?_iff.mp (h rfl name hname)
  have hget := (Fields.ofRecordField_inverts Decoder.raw_inverts).mp hread
  obtain rfl := Option.some.inj (hget.symm.trans hgiven)
  exact hne

/-- None of the fields of any form is `null`. -/
structure Widget.NoNull (w : Widget) : Prop where
  layout : w.layout ≠ .null
  config : w.config ≠ .null

/-- None of the fields of any form is `null`. -/
structure Document.NoNull (d : Document) : Prop where
  oodm : d.oodm ≠ .null
  dependencyGraph : d.dependencyGraph ≠ .null
  layout : d.layout ≠ .null
  metadata : d.metadata ≠ .null
  widgets : ∀ w ∈ d.widgets, w.NoNull

theorem WidgetMetadata.gives_toJson (m : WidgetMetadata) :
    m.toJson.Gives ["timing", "versatility", "bottleneck", "description"] :=
  Json.gives_ofFields (by simp) (by simp [Record.get?])

namespace Widget

variable {w : Widget}

theorem noNull_of_decoder {r : Record Json} (hfilled : Filled (.object r))
    (h : decoder (.object r) = .ok w) : w.NoNull where
  layout := hfilled.fields.ne_null (by decide) (readFrom_of_decoder h).layout
  config := hfilled.fields.ne_null (by decide) (readFrom_of_decoder h).config

theorem NoNull.filled_toJson (h : w.NoNull) : Filled w.toJson where
  fields := Json.gives_ofFields (by simp)
    (by simp [Record.get?, h.layout, h.config, WidgetMetadata.toJson, Json.ofFields])
  metadata value hvalue := by
    have hget : w.toJson.field? "metadata" = some w.metadata.toJson :=
      Json.field?_ofFields (by simp) "metadata"
    obtain rfl := Option.some.inj (hget.symm.trans hvalue)
    exact w.metadata.gives_toJson

theorem hasComponent_toJson_iff {eligible : Option (List String)} :
    HasComponent eligible w.toJson ↔
      isBlankText w.component = false ∧ ∀ ids, eligible = some ids → w.component ∈ ids := by
  have hget : w.toJson.field? "component" = some (.text w.component) :=
    Json.field?_ofFields (by simp) "component"
  constructor
  · rintro ⟨s, hs, hblank, hids⟩
    obtain rfl := Json.text.inj (Option.some.inj (hget.symm.trans hs))
    exact ⟨hblank, hids⟩
  · exact fun h => ⟨w.component, hget, h⟩

theorem hasComponent_toJson {eligible : Option (List String)} {r : Record Json}
    (hcomponent : HasComponent eligible (.object r)) (h : decoder (.object r) = .ok w) :
    HasComponent eligible w.toJson := by
  obtain ⟨s, hs, hblank, hids⟩ := hcomponent
  obtain rfl := Json.text.inj (Option.some.inj ((component_of_decoder h).symm.trans hs))
  exact hasComponent_toJson_iff.mpr ⟨hblank, hids⟩

end Widget

namespace Document

variable {d : Document} {raw : Json} {eligible : Option (List String)}

/-- Every widget was read from an object in which no field is open. -/
theorem exists_object_of_accept (h : accept eligible raw = .ok d) :
    ∀ w ∈ d.widgets, ∃ r : Record Json, Widget.HasComponent eligible (.object r) ∧
      Widget.Filled (.object r) ∧ Widget.decoder (.object r) = .ok w := by
  intro w hw
  obtain ⟨i, item, hcomponent, hdecode⟩ := (exists_item_of_accept h).2 w hw
  have hfilled := filled_fillWidget i item
  have hpresent := (hasComponent_fillWidget_iff i).mpr hcomponent
  cases hitem : fillWidget i item with
  | object r =>
    rw [hitem] at hfilled hpresent hdecode
    exact ⟨r, hpresent, hfilled, hdecode⟩
  | _ =>
    obtain ⟨s, hs, -⟩ := hpresent
    rw [hitem] at hs
    cases hs

theorem noNull_of_accept (h : accept eligible raw = .ok d) : d.NoNull := by
  have hwidgets (w : Widget) (hw : w ∈ d.widgets) : w.NoNull := by
    obtain ⟨r, -, hfilled, hdecode⟩ := exists_object_of_accept h w hw
    exact Widget.noNull_of_decoder hfilled hdecode
  obtain ⟨-, hd⟩ := accept_eq_ok_iff.mp h
  have hfields := (filled_fill raw).fields
  have hobject := Json.isObject_of_field? (carries_of_accept h).sessionId
  cases raw with
  | object r =>
    have hread := readFrom_of_decoder hd
    exact ⟨hfields.ne_null (by decide) hread.oodm, hfields.ne_null (by decide) hread.dependencyGraph,
      hfields.ne_null (by decide) hread.layout, hfields.ne_null (by decide) hread.metadata, hwidgets⟩
  | _ => cases hobject

theorem field?_toJson_widgets (d : Document) :
    d.toJson.field? "widgets" = some (.array (d.widgets.map Widget.toJson)) :=
  Json.field?_ofFields (by simp) "widgets"

theorem NoNull.filled_toJson (h : d.NoNull) : Filled d.toJson where
  fields := Json.gives_ofFields (by simp)
    (by simp [Record.get?, h.oodm, h.dependencyGraph, h.layout, h.metadata])
  widgets items hitems item hitem := by
    obtain rfl := Json.array.inj (Option.some.inj (hitems.symm.trans (field?_toJson_widgets d)))
    obtain ⟨w, hw, rfl⟩ := List.mem_map.mp hitem
    exact (h.widgets w hw).filled_toJson

/-- What is written for a document keeps the rules when its session is named and its widgets may be
used. -/
theorem NoNull.violations_toJson (h : d.NoNull) (hsession : isBlankText d.sessionId = false)
    (hne : d.widgets ≠ []) (hcomponents : ∀ w ∈ d.widgets, Widget.HasComponent eligible w.toJson) :
    violations eligible d.toJson = [] := by
  have hsessionId : d.toJson.field? "sessionId" = some (.text d.sessionId) :=
    Json.field?_ofFields (by simp) "sessionId"
  have hstage : d.toJson.field? "stage" = some (.text d.stage.name) :=
    Json.field?_ofFields (by simp) "stage"
  have hname : isBlankText d.stage.name = false := by cases d.stage <;> decide
  have hvalid : violations eligible (fill d.toJson) = [] := violations_fill_eq_nil_iff.mpr
    ⟨⟨d.sessionId, hsessionId, hsession⟩, ⟨d.stage.name, hstage, hname⟩,
      d.widgets.map Widget.toJson, field?_toJson_widgets d, by simpa using hne,
      by simpa using hcomponents⟩
  rwa [fill_eq_self h.filled_toJson] at hvalid

theorem NoNull.accept_toJson (h : d.NoNull) (hvalid : violations eligible d.toJson = []) :
    accept eligible d.toJson = .ok d := by
  rw [accept_eq_ok_iff, fill_eq_self h.filled_toJson]
  exact ⟨hvalid, decoder_recovers d⟩

/-- The rules ask for nothing that is not carried over from the raw value. -/
theorem violations_toJson_of_accept (h : accept eligible raw = .ok d) :
    violations eligible d.toJson = [] := by
  obtain ⟨⟨s, hs, hblank⟩, -, -⟩ := violations_fill_eq_nil_iff.mp (accept_eq_ok_iff.mp h).1
  have hsame : d.sessionId = s := (carries_of_accept h).sessionId_iff.mpr hs
  refine (noNull_of_accept h).violations_toJson (hsame ▸ hblank) (exists_item_of_accept h).1 ?_
  intro w hw
  obtain ⟨r, hcomponent, -, hdecode⟩ := exists_object_of_accept h w hw
  exact Widget.hasComponent_toJson hcomponent hdecode

/-- Filling, validation and typed reading leave a document that was accepted as it is, whatever it
was accepted from. -/
theorem accept_toJson_of_accept (raw : Json) (eligible : Option (List String)) (d : Document)
    (h : accept eligible raw = .ok d) :
    fill d.toJson = d.toJson ∧ violations eligible d.toJson = [] ∧
      accept eligible d.toJson = .ok d := by
  have hfill : fill d.toJson = d.toJson := fill_eq_self (noNull_of_accept h).filled_toJson
  have hvalid := violations_toJson_of_accept h
  refine ⟨hfill, hvalid, accept_eq_ok_iff.mpr ?_⟩
  rw [hfill]
  exact ⟨hvalid, decoder_recovers d⟩

/-- Metadata that was an array is written as an object. -/
theorem accept_array_metadata :
    let widget : Json := .ofFields [("component", .text "recap"), ("id", .null),
      ("metadata", .array [.text "late", .text "low", .array [.text "time"], .text "at the end"])]
    let raw : Json := .ofFields [("sessionId", .text "s"), ("stage", .text "summary"),
      ("layout", .null), ("widgets", .array [widget])]
    let d : Document := ⟨"s", .summary, .object [],
      .ofFields [("nodes", .array []), ("edges", .array [])],
      [⟨"widget-1", "recap", 0, .object [], .object [], [], [], [],
        ⟨"late", "low", ["time"], "at the end"⟩⟩],
      .ofFields [("type", .text "single")], .object []⟩
    accept (some ["recap"]) raw = .ok d ∧ fill d.toJson = d.toJson ∧
      violations (some ["recap"]) d.toJson = [] ∧ accept (some ["recap"]) d.toJson = .ok d := by
  intro widget raw d
  have hd : accept (some ["recap"]) raw = .ok d :=
    Outcome.toOption_eq_some_iff.mp (by decide +kernel)
  exact ⟨hd, accept_toJson_of_accept raw (some ["recap"]) d hd⟩

end Document

end Stagewise
