import Stagewise.Document.Acceptance
import Stagewise.Proofs.Document.Reading

/-! The documents that are accepted. Validation of what was filled comes down to the texts that a
document must bring itself; that its optional fields have their types is left to the reading. -/

namespace Stagewise

namespace Document

variable {d : Document} {raw : Json} {eligible : Option (List String)}

theorem presentText?_eq_some_iff {name s : String} :
    presentText? raw name = some s ↔
      raw.field? name = some (.text s) ∧ isBlankText s = false := by
  unfold presentText?
  rw [Option.filter_eq_some_iff, Option.bind_eq_some_iff]
  constructor
  · rintro ⟨⟨value, hvalue, hs⟩, hblank⟩
    cases value with
    | text t =>
      obtain rfl := Option.some.inj hs
      exact ⟨hvalue, by simpa using hblank⟩
    | _ => cases hs
  · rintro ⟨hfield, hblank⟩
    exact ⟨⟨.text s, hfield, rfl⟩, by simpa using hblank⟩

theorem requireText_eq_nil_iff {name : String} {v : Violation} :
    requireText raw name v = [] ↔
      ∃ s, raw.field? name = some (.text s) ∧ isBlankText s = false := by
  simp only [← presentText?_eq_some_iff, ← Option.isSome_iff_exists]
  unfold requireText
  split <;> simp_all

theorem widgetViolations_eq_nil_iff {i : Nat} :
    widgetViolations eligible i raw = [] ↔ Widget.HasComponent eligible raw := by
  unfold widgetViolations Widget.HasComponent
  simp only [← and_assoc, ← presentText?_eq_some_iff]
  cases presentText? raw "component" with
  | none => simp
  | some s =>
    cases eligible with
    | none => simp
    | some ids => by_cases h : s ∈ ids <;> simp [h]

theorem widgetsViolations_eq_nil_iff {field : Option Json} :
    widgetsViolations eligible field = [] ↔
      ∃ items, field = some (.array items) ∧ items ≠ [] ∧
        ∀ item ∈ items, Widget.HasComponent eligible item := by
  unfold widgetsViolations
  split
  · constructor
    · intro h
      cases h
    · rintro ⟨items, hitems, hne, -⟩
      exact absurd (Json.array.inj (Option.some.inj hitems)).symm hne
  · rename_i widgets hne
    rw [List.flatten_eq_nil_iff]
    constructor
    · intro h
      refine ⟨widgets, rfl, fun he => hne (he ▸ rfl), fun item hitem => ?_⟩
      obtain ⟨i, hi, rfl⟩ := List.getElem_of_mem hitem
      exact widgetViolations_eq_nil_iff.mp (h _ (List.mem_mapIdx.mpr ⟨i, hi, rfl⟩))
    · rintro ⟨items, hitems, -, h⟩ found hfound
      obtain rfl := Json.array.inj (Option.some.inj hitems)
      obtain ⟨i, hi, rfl⟩ := List.mem_mapIdx.mp hfound
      exact widgetViolations_eq_nil_iff.mpr (h _ (List.getElem_mem hi))
  · rename_i hempty hother
    constructor
    · intro h
      cases h
    · rintro ⟨items, hitems, -, -⟩
      exact absurd hitems (hother items)

theorem hasComponent_fillWidget_iff (i : Nat) :
    Widget.HasComponent eligible (fillWidget i raw) ↔ Widget.HasComponent eligible raw := by
  unfold Widget.HasComponent
  rw [field?_fillWidget_component]

theorem violations_fill_eq_nil_iff :
    violations eligible (fill raw) = [] ↔
      (∃ s, raw.field? "sessionId" = some (.text s) ∧ isBlankText s = false) ∧
      (∃ s, raw.field? "stage" = some (.text s) ∧ isBlankText s = false) ∧
      ∃ items, raw.field? "widgets" = some (.array items) ∧ items ≠ [] ∧
        ∀ item ∈ items, Widget.HasComponent eligible item := by
  simp only [violations, List.append_eq_nil_iff, requireText_eq_nil_iff,
    widgetsViolations_eq_nil_iff, field?_fill_widgets, and_assoc]
  rw [field?_fill_of_required raw (by decide) (by decide),
    field?_fill_of_required raw (by decide) (by decide)]
  refine and_congr_right fun _ => and_congr_right fun _ => ?_
  constructor
  · rintro ⟨filled, hfilled, hne, hcomponents⟩
    obtain ⟨value, hvalue, he⟩ := Option.map_eq_some_iff.mp hfilled
    cases value with
    | array items =>
      obtain rfl := Json.array.inj he
      refine ⟨items, hvalue, fun hnil => hne (by simp [hnil]), fun item hitem => ?_⟩
      obtain ⟨i, hi, rfl⟩ := List.getElem_of_mem hitem
      have hc := hcomponents _ (List.mem_mapIdx.mpr ⟨i, hi, rfl⟩)
      exact (hasComponent_fillWidget_iff i).mp hc
    | _ => cases he
  · rintro ⟨items, hitems, hne, hcomponents⟩
    refine ⟨items.mapIdx fillWidget, by simp [hitems, fillWidgets], by simpa using hne, ?_⟩
    intro item hitem
    obtain ⟨i, hi, rfl⟩ := List.mem_mapIdx.mp hitem
    exact (hasComponent_fillWidget_iff i).mpr (hcomponents _ (List.getElem_mem hi))

theorem accept_eq_ok_iff :
    accept eligible raw = .ok d ↔
      violations eligible (fill raw) = [] ∧ decoder (fill raw) = .ok d := by
  simp only [accept]
  cases violations eligible (fill raw) with
  | nil => cases decoder (fill raw) <;> simp
  | cons v rest => simp

theorem list_widgets_eq_ok_iff {items : List Json} {ws : List Widget}
    (hdistinct : ∀ item ∈ items, item.Distinct) (hobject : ∀ item ∈ items, item.isObject = true)
    (hsize : items.length < UInt32.size) :
    Decoder.list Widget.decoder (fillWidgets (.array items)) = .ok ws ↔
      ws.length = items.length ∧
      ∀ (i : Nat) item w, items[i]? = some item → ws[i]? = some w → w.Completes i item := by
  have hread {i : Nat} {item : Json} {w : Widget} (hi : items[i]? = some item) :
      Widget.decoder (fillWidget i item) = .ok w ↔ w.Completes i item := by
    obtain ⟨hlt, rfl⟩ := List.getElem?_eq_some_iff.mp hi
    exact Widget.decoder_fillWidget (hdistinct _ (List.getElem_mem hlt))
      (hobject _ (List.getElem_mem hlt)) (Nat.lt_trans hlt hsize)
  change (items.mapIdx fillWidget).mapM Widget.decoder = .ok ws ↔ _
  rw [Outcome.mapM_eq_ok_iff, List.length_mapIdx]
  refine and_congr_right fun _ => ?_
  constructor
  · intro h i item w hitem hw
    have hfilled : (items.mapIdx fillWidget)[i]? = some (fillWidget i item) := by
      simp [List.getElem?_mapIdx, hitem]
    exact (hread hitem).mp (h i _ w hfilled hw)
  · intro h i filled w hfilled hw
    rw [List.getElem?_mapIdx] at hfilled
    obtain ⟨item, hitem, rfl⟩ := Option.map_eq_some_iff.mp hfilled
    exact (hread hitem).mpr (h i item w hitem hw)

theorem decoder_fill (hraw : raw.Distinct) {items : List Json}
    (hitems : raw.field? "widgets" = some (.array items)) (hsize : items.length < UInt32.size)
    (hobject : ∀ item ∈ items, item.isObject = true) {s : String}
    (hstage : raw.field? "stage" = some (.text s)) :
    decoder (fill raw) = .ok d ↔ d.Completes raw := by
  cases raw with
  | object r =>
    obtain ⟨hr, -⟩ := Json.distinct_object_iff.mp hraw
    have hdistinct := distinct_onField (distinct_setDefaults hr rootDefaults) "widgets" fillWidgets
    have hnames : (rootDefaults.map Prod.fst).Nodup := by decide
    have hrequired {name : String} (hne : name ≠ "widgets")
        (h : name ∉ rootDefaults.map Prod.fst) :
        Record.get? (onField "widgets" fillWidgets (setDefaults r rootDefaults)) name =
          Record.get? r name :=
      field?_fill_of_required (.object r) hne h
    have hwidgets : Fields.ofRecordField (.required "widgets" (Decoder.list Widget.decoder))
        (onField "widgets" fillWidgets (setDefaults r rootDefaults)) = .ok d.widgets ↔
          d.widgets.length = items.length ∧ ∀ (i : Nat) item w, items[i]? = some item →
            d.widgets[i]? = some w → w.Completes i item := by
      have hget : Record.get? (onField "widgets" fillWidgets (setDefaults r rootDefaults))
          "widgets" = some (fillWidgets (.array items)) :=
        (field?_fill_widgets (.object r)).trans (congrArg (Option.map fillWidgets) hitems)
      rw [Fields.ofRecordField_required, ← list_widgets_eq_ok_iff
        (hraw.field hitems).items hobject hsize]
      simp [hget]
    refine (decoder_object hdistinct).trans ?_
    rw [readFrom_iff, Fields.ofRecordField_inverts Decoder.text_inverts,
      hrequired (by decide) (by decide),
      Stage.ofRecordField_text ((hrequired (by decide) (by decide)).trans hstage),
      hrequired (by decide) (by decide), hwidgets,
      ofRecordField_filled Decoder.raw_inverts (.object []) hnames (by decide) (by decide),
      ofRecordField_filled Decoder.raw_inverts
        (.ofFields [("nodes", .array []), ("edges", .array [])]) hnames (by decide) (by decide),
      ofRecordField_filled Decoder.raw_inverts (.ofFields [("type", .text "single")]) hnames
        (by decide) (by decide),
      ofRecordField_filled Decoder.raw_inverts (.object []) hnames (by decide) (by decide)]
    constructor
    · rintro ⟨hs, ht, ho, hg, hw, hl, hm⟩
      exact ⟨hs, ht, ho, hg, hl, hm, items, hitems, hw⟩
    · rintro ⟨hs, ht, ho, hg, hl, hm, items', hitems', hw⟩
      obtain rfl := Json.array.inj (Option.some.inj (hitems.symm.trans hitems'))
      exact ⟨hs, ht, ho, hg, hw, hl, hm⟩
  | _ => cases hitems

theorem Completes.acceptable (h : d.Completes raw)
    (hvalid : violations eligible (fill raw) = []) : Acceptable eligible raw := by
  obtain ⟨hsession, -, items, hitems, hne, hcomponents⟩ := violations_fill_eq_nil_iff.mp hvalid
  refine ⟨Json.isObject_of_field? hitems, hsession, ⟨d.stage, h.stage⟩, items, hitems, hne, ?_⟩
  intro item hitem
  obtain ⟨items', hitems', hlength, hws⟩ := h.widgets
  obtain rfl := Json.array.inj (Option.some.inj (hitems.symm.trans hitems'))
  obtain ⟨i, hi, rfl⟩ := List.getElem_of_mem hitem
  have hcompletes := hws i items[i] (d.widgets[i]) (List.getElem?_eq_getElem hi)
    (List.getElem?_eq_getElem (hlength ▸ hi))
  exact (Widget.acceptable_iff i).mpr ⟨hcomponents _ hitem, _, hcompletes⟩

theorem Acceptable.violations_fill (h : Acceptable eligible raw) :
    violations eligible (fill raw) = [] := by
  obtain ⟨stage, hstage⟩ := h.stage
  obtain ⟨items, hitems, hne, hwidgets⟩ := h.widgets
  have hname : isBlankText stage.name = false := by cases stage <;> decide
  exact violations_fill_eq_nil_iff.mpr ⟨h.sessionId, ⟨_, hstage, hname⟩, items, hitems, hne,
    fun item hitem => (hwidgets item hitem).component⟩

theorem accept_eq_ok_iff_completes (hraw : raw.Distinct)
    (hsize : ∀ items, raw.field? "widgets" = some (.array items) → items.length < UInt32.size) :
    accept eligible raw = .ok d ↔ Acceptable eligible raw ∧ d.Completes raw := by
  rw [accept_eq_ok_iff]
  have hread (hvalid : violations eligible (fill raw) = []) :
      decoder (fill raw) = .ok d ↔ d.Completes raw := by
    obtain ⟨-, ⟨s, hs, -⟩, items, hitems, -, hcomponents⟩ := violations_fill_eq_nil_iff.mp hvalid
    refine decoder_fill hraw hitems (hsize items hitems) (fun item hitem => ?_) hs
    obtain ⟨c, hc, -⟩ := hcomponents item hitem
    exact Json.isObject_of_field? hc
  constructor
  · rintro ⟨hvalid, hd⟩
    have hcompletes := (hread hvalid).mp hd
    exact ⟨hcompletes.acceptable hvalid, hcompletes⟩
  · rintro ⟨hacceptable, hcompletes⟩
    have hvalid := hacceptable.violations_fill
    exact ⟨hvalid, (hread hvalid).mpr hcompletes⟩

/-- Exactly the acceptable documents are accepted, each as what it becomes. A raw value that was
read has no name twice in an object (`Json.distinct_of_ofText?`). -/
theorem accept_iff_acceptable (raw : Json) (eligible : Option (List String)) (hraw : raw.Distinct)
    (hsize : ∀ items, raw.field? "widgets" = some (.array items) → items.length < UInt32.size) :
    ((∃ d, accept eligible raw = .ok d) ↔ Acceptable eligible raw) ∧
      ∀ d, accept eligible raw = .ok d → d.Completes raw := by
  have haccept {d : Document} : accept eligible raw = .ok d ↔
      Acceptable eligible raw ∧ d.Completes raw :=
    accept_eq_ok_iff_completes hraw hsize
  refine ⟨⟨?_, fun h => ?_⟩, fun d hd => (haccept.mp hd).2⟩
  · rintro ⟨d, hd⟩
    exact (haccept.mp hd).1
  · obtain ⟨d, hd⟩ := h.exists_completes
    exact ⟨d, haccept.mpr ⟨h, hd⟩⟩

/-- A widget without an id and with a part of its metadata. -/
theorem accept_partial_metadata :
    let widget : Json := .ofFields [("component", .text "recap"), ("position", .int 7),
      ("metadata", .ofFields [("timing", .text "late"), ("description", .null)])]
    let raw : Json := .ofFields [("sessionId", .text "s"), ("stage", .text "summary"),
      ("layout", .null), ("widgets", .array [widget])]
    let d : Document := ⟨"s", .summary, .object [],
      .ofFields [("nodes", .array []), ("edges", .array [])],
      [⟨"widget-1", "recap", 7, .object [], .object [], [], [], [], ⟨"late", "medium", [], ""⟩⟩],
      .ofFields [("type", .text "single")], .object []⟩
    raw.Distinct ∧
      (∀ items, raw.field? "widgets" = some (.array items) → items.length < UInt32.size) ∧
      accept none raw = .ok d ∧ Acceptable none raw ∧ d.Completes raw := by
  intro widget raw d
  have hmetadata : (Json.ofFields [("timing", .text "late"), ("description", .null)]).Distinct :=
    Json.distinct_ofFields (by simp [Json.Distinct.text, Json.Distinct.null])
  have hwidget : widget.Distinct :=
    Json.distinct_ofFields (by simp [Json.Distinct.text, Json.Distinct.int, hmetadata])
  have hwidgets : (Json.array [widget]).Distinct := .array (by simpa using hwidget)
  have hraw : raw.Distinct :=
    Json.distinct_ofFields (by simp [Json.Distinct.text, Json.Distinct.null, hwidgets])
  have hfield : raw.field? "widgets" = some (.array [widget]) := by decide +kernel
  have hsize : ∀ items, raw.field? "widgets" = some (.array items) →
      items.length < UInt32.size := by
    intro items hitems
    obtain rfl := Json.array.inj (Option.some.inj (hfield.symm.trans hitems))
    decide
  have hd : accept none raw = .ok d := Outcome.toOption_eq_some_iff.mp (by decide +kernel)
  obtain ⟨hacceptable, hcompletes⟩ := accept_iff_acceptable raw none hraw hsize
  exact ⟨hraw, hsize, hd, hacceptable.mp ⟨d, hd⟩, hcompletes d hd⟩

end Document

end Stagewise
