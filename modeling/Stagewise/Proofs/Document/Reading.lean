import Mathlib.Tactic.MkIffOfInductiveProp
import Stagewise.Proofs.Document.Criterion
import Stagewise.Proofs.Json.Distinct
import Stagewise.Proofs.Json.Shape

/-! What filled raw values are read as. Field by field, an optional field that was filled is read as
the value that was given or as its default. -/

namespace Stagewise

section

variable {α : Type} {decode : Decoder α} {encode : α → Json} {name : String} {default a : α}

theorem Json.optional_of_inverts (h : decode.Inverts encode) {json : Json} :
    decode ((json.given? name).getD (encode default)) = .ok a ↔
      json.Optional name encode default a := by
  unfold Json.Optional
  cases json.given? name with
  | none =>
    rw [Option.getD_none, h]
    constructor
    · intro he
      exact .inr ⟨rfl, (h.injective he).symm⟩
    · rintro (he | ⟨-, rfl⟩)
      · cases he
      · rfl
  | some value =>
    rw [Option.getD_some, h]
    constructor
    · rintro rfl
      exact .inl rfl
    · rintro (he | ⟨he, -⟩)
      · exact Option.some.inj he
      · cases he

theorem Fields.ofRecordField_given (h : decode.Inverts encode) (default : α) {r r' : Record Json}
    (hget : r'.get? name = some (((Json.object r).given? name).getD (encode default))) :
    ofRecordField (.required name decode) r' = .ok a ↔
      (Json.object r).Optional name encode default a := by
  rw [ofRecordField_required, ← Json.optional_of_inverts h]
  simp [hget]

/-- An optional field of an object that was filled. -/
theorem Document.ofRecordField_filled {defaults : List (String × Json)} {inner : String}
    {change : Json → Json} (h : decode.Inverts encode) (default : α) {r : Record Json}
    (hnames : (defaults.map Prod.fst).Nodup) (hne : name ≠ inner)
    (hmem : (name, encode default) ∈ defaults) :
    Fields.ofRecordField (.required name decode) (onField inner change (setDefaults r defaults)) =
        .ok a ↔ (Json.object r).Optional name encode default a :=
  Fields.ofRecordField_given h default (get?_filled r hne hnames hmem)

theorem Json.Distinct.given {json value : Json} (h : json.Distinct)
    (hv : json.given? name = some value) : value.Distinct := by
  obtain ⟨hfield, -⟩ := Option.filter_eq_some_iff.mp hv
  exact h.field hfield

end

namespace WidgetMetadata

variable {m : WidgetMetadata}

theorem decoder_object {r : Record Json} (hr : r.Distinct) :
    decoder (.object r) = .ok m ↔
      Fields.ofRecordField (.required "timing" Decoder.text) r = .ok m.timing ∧
      Fields.ofRecordField (.required "versatility" Decoder.text) r = .ok m.versatility ∧
      Fields.ofRecordField (.required "bottleneck" (Decoder.list Decoder.text)) r =
        .ok m.bottleneck ∧
      Fields.ofRecordField (.required "description" Decoder.text) r = .ok m.description := by
  refine (Fields.Sound.decoder_object
    (((((Fields.done_sound _).and _).and _).and _).and _) hr).trans ?_
  simp only [Fields.ofRecord_and]
  constructor
  · rintro ⟨_, ⟨_, ⟨_, ⟨_, ⟨⟩, t, ht, rfl⟩, v, hv, rfl⟩, b, hb, rfl⟩, d, hd, rfl⟩
    exact ⟨ht, hv, hb, hd⟩
  · rintro ⟨ht, hv, hb, hd⟩
    exact ⟨_, ⟨_, ⟨_, ⟨_, rfl, _, ht, rfl⟩, _, hv, rfl⟩, _, hb, rfl⟩, _, hd, rfl⟩

theorem decoder_array {items : List Json} :
    decoder (.array items) = .ok m ↔ items =
      [.text m.timing, .text m.versatility, .array (m.bottleneck.map Json.text),
        .text m.description] := by
  have htexts := Decoder.list_inverts Decoder.text_inverts
  rw [decoder, Fields.decoder_array]
  simp only [Fields.ofItems_and, Fields.ofItemsField_required]
  constructor
  · rintro ⟨_, _, ⟨_, _, ⟨_, _, ⟨_, _, ⟨⟩, t, ⟨jt, rfl, ht⟩, rfl⟩, v, ⟨jv, rfl, hv⟩, rfl⟩, b,
      ⟨jb, rfl, hb⟩, rfl⟩, d, ⟨jd, rfl, hd⟩, rfl⟩
    rw [(Decoder.text_inverts _ _).mp ht, (Decoder.text_inverts _ _).mp hv, (htexts _ _).mp hb,
      (Decoder.text_inverts _ _).mp hd]
  · rintro rfl
    have hb := (htexts _ m.bottleneck).mpr rfl
    exact ⟨_, _, ⟨_, _, ⟨_, _, ⟨_, _, rfl, _, ⟨_, rfl, rfl⟩, rfl⟩, _, ⟨_, rfl, rfl⟩, rfl⟩, _,
      ⟨_, rfl, hb⟩, rfl⟩, _, ⟨_, rfl, rfl⟩, rfl⟩

theorem decoder_fillMetadata {raw : Json} (hraw : raw.Distinct) :
    decoder (Document.fillMetadata raw) = .ok m ↔ m.Completes raw := by
  cases raw with
  | object r =>
    obtain ⟨hr, -⟩ := Json.distinct_object_iff.mp hraw
    have hget {name : String} {value : Json} (h : (name, value) ∈ Document.metadataDefaults) :
        Record.get? (Document.setDefaults r Document.metadataDefaults) name =
          some (((Json.object r).given? name).getD value) :=
      Document.get?_setDefaults_of_mem r (by decide) h
    refine (decoder_object (Document.distinct_setDefaults hr _)).trans ?_
    rw [Fields.ofRecordField_given Decoder.text_inverts "any" (hget (by decide)),
      Fields.ofRecordField_given Decoder.text_inverts "medium" (hget (by decide)),
      Fields.ofRecordField_given (Decoder.list_inverts Decoder.text_inverts) [] (hget (by decide)),
      Fields.ofRecordField_given Decoder.text_inverts "" (hget (by decide))]
    constructor
    · rintro ⟨ht, hv, hb, hd⟩
      exact .object ht hv hb hd
    · rintro ⟨ht, hv, hb, hd⟩
      exact ⟨ht, hv, hb, hd⟩
  | array items =>
    refine decoder_array.trans ?_
    constructor
    · rintro rfl
      exact .array
    · rintro ⟨⟩
      rfl
  | _ =>
    constructor
    · intro h
      cases h
    · intro h
      cases h

end WidgetMetadata

namespace Widget

variable {w : Widget}

/-- Field by field, what is read from an object. -/
@[mk_iff]
structure ReadFrom (w : Widget) (r : Record Json) : Prop where
  id : Fields.ofRecordField (.required "id" Decoder.text) r = .ok w.id
  component : Fields.ofRecordField (.required "component" Decoder.text) r = .ok w.component
  position : Fields.ofRecordField (.required "position" Decoder.word32) r = .ok w.position
  layout : Fields.ofRecordField (.required "layout" Decoder.raw) r = .ok w.layout
  config : Fields.ofRecordField (.required "config" Decoder.raw) r = .ok w.config
  inputs : Fields.ofRecordField (.required "inputs" (Decoder.list Decoder.raw)) r = .ok w.inputs
  outputs : Fields.ofRecordField (.required "outputs" (Decoder.list Decoder.raw)) r = .ok w.outputs
  reactiveBindings : Fields.ofRecordField (.required "reactiveBindings" (Decoder.list Decoder.raw)) r =
    .ok w.reactiveBindings
  metadata : Fields.ofRecordField (.required "metadata" WidgetMetadata.decoder) r = .ok w.metadata

theorem readFrom_of_decoder {r : Record Json} (h : decoder (.object r) = .ok w) : w.ReadFrom r := by
  have hread := Fields.ofRecord_of_decoder h
  simp only [Fields.ofRecord_and] at hread
  obtain ⟨_, ⟨_, ⟨_, ⟨_, ⟨_, ⟨_, ⟨_, ⟨_, ⟨_, ⟨⟩, i, hi, rfl⟩, c, hc, rfl⟩, p, hp, rfl⟩, l, hl, rfl⟩, g,
    hg, rfl⟩, n, hn, rfl⟩, o, ho, rfl⟩, b, hb, rfl⟩, m, hm, rfl⟩ := hread
  exact ⟨hi, hc, hp, hl, hg, hn, ho, hb, hm⟩

theorem decoder_object {r : Record Json} (hr : r.Distinct) :
    decoder (.object r) = .ok w ↔ w.ReadFrom r := by
  refine ⟨readFrom_of_decoder, fun h => (Fields.Sound.decoder_object
    ((((((((((Fields.done_sound _).and _).and _).and _).and _).and _).and _).and _).and _).and _)
    hr).mpr ?_⟩
  simp only [Fields.ofRecord_and]
  exact ⟨_, ⟨_, ⟨_, ⟨_, ⟨_, ⟨_, ⟨_, ⟨_, ⟨_, rfl, _, h.id, rfl⟩, _, h.component, rfl⟩, _, h.position,
    rfl⟩, _, h.layout, rfl⟩, _, h.config, rfl⟩, _, h.inputs, rfl⟩, _, h.outputs, rfl⟩, _,
    h.reactiveBindings, rfl⟩, _, h.metadata, rfl⟩

theorem ofRecordField_metadata {place : Nat} {r : Record Json} (hr : (Json.object r).Distinct)
    {m : WidgetMetadata} :
    Fields.ofRecordField (.required "metadata" WidgetMetadata.decoder)
        (Document.onField "metadata" Document.fillMetadata
          (Document.setDefaults r (Document.widgetDefaults place))) = .ok m ↔
      m.Completes (((Json.object r).given? "metadata").getD (.object [])) := by
  have hdefault : ("metadata", Json.object []) ∈ Document.widgetDefaults place := by
    simp [Document.widgetDefaults]
  have hvalue : (((Json.object r).given? "metadata").getD (.object [])).Distinct := by
    cases hgiven : (Json.object r).given? "metadata" with
    | none => exact .object List.nodup_nil (by simp)
    | some value => exact hr.given hgiven
  rw [Fields.ofRecordField_required, Document.get?_onField_self,
    Document.get?_setDefaults_of_mem r (Document.widgetDefaults_names place) hdefault,
    ← WidgetMetadata.decoder_fillMetadata hvalue]
  simp

theorem decoder_fillWidget {place : Nat} {raw : Json} (hraw : raw.Distinct)
    (hobject : raw.isObject = true) (hplace : place < UInt32.size) :
    decoder (Document.fillWidget place raw) = .ok w ↔ w.Completes place raw := by
  cases raw with
  | object r =>
    obtain ⟨hr, -⟩ := Json.distinct_object_iff.mp hraw
    have hdistinct := Document.distinct_onField
      (Document.distinct_setDefaults hr (Document.widgetDefaults place)) "metadata"
      Document.fillMetadata
    have hnames := Document.widgetDefaults_names place
    have hword : (UInt32.ofNat place).toNat = place := UInt32.toNat_ofNat_of_lt' hplace
    have hcomponent : Record.get? (Document.onField "metadata" Document.fillMetadata
        (Document.setDefaults r (Document.widgetDefaults place))) "component" =
          Record.get? r "component" :=
      Document.field?_fillWidget_component place (.object r)
    refine (decoder_object hdistinct).trans ?_
    rw [readFrom_iff,
      Document.ofRecordField_filled Decoder.text_inverts ("widget-" ++ toString (place + 1))
        hnames (by decide) (by simp [Document.widgetDefaults]),
      Fields.ofRecordField_inverts Decoder.text_inverts,
      Document.ofRecordField_filled Decoder.word32_inverts (UInt32.ofNat place) hnames (by decide)
        (by simp [Document.widgetDefaults, hword]),
      Document.ofRecordField_filled Decoder.raw_inverts (.object []) hnames (by decide)
        (by simp [Document.widgetDefaults]),
      Document.ofRecordField_filled Decoder.raw_inverts (.object []) hnames (by decide)
        (by simp [Document.widgetDefaults]),
      Document.ofRecordField_filled Decoder.rawList_inverts [] hnames (by decide)
        (by simp [Document.widgetDefaults]),
      Document.ofRecordField_filled Decoder.rawList_inverts [] hnames (by decide)
        (by simp [Document.widgetDefaults]),
      Document.ofRecordField_filled Decoder.rawList_inverts [] hnames (by decide)
        (by simp [Document.widgetDefaults]), hcomponent, ofRecordField_metadata hraw]
    constructor
    · rintro ⟨hi, hc, hp, hl, hg, hn, ho, hb, hm⟩
      exact ⟨hc, hi, hp, hl, hg, hn, ho, hb, hm⟩
    · rintro ⟨hc, hi, hp, hl, hg, hn, ho, hb, hm⟩
      exact ⟨hi, hc, hp, hl, hg, hn, ho, hb, hm⟩
  | _ => cases hobject

end Widget

theorem Stage.lookup_named_iff {s : String} {stage : Stage} :
    named.lookup s = some stage ↔ s = stage.name := by
  constructor
  · intro h
    obtain ⟨before, after, hnamed, -⟩ := List.lookup_eq_some_iff.mp h
    have hmem : (s, stage) ∈ named := hnamed ▸ by simp
    obtain ⟨other, -, he⟩ := List.mem_map.mp hmem
    obtain ⟨rfl, rfl⟩ := Prod.mk.inj he
    rfl
  · rintro rfl
    cases stage <;> decide

theorem Stage.decoder_text {s : String} {stage : Stage} :
    decoder (.text s) = .ok stage ↔ s = stage.name := by
  rw [← lookup_named_iff]
  unfold decoder Decoder.variant Decoder.variant.named
  dsimp only
  cases named.lookup s <;> simp

theorem Stage.ofRecordField_text {r : Record Json} {s : String}
    (h : r.get? "stage" = some (.text s)) {stage : Stage} :
    Fields.ofRecordField (.required "stage" decoder) r = .ok stage ↔
      r.get? "stage" = some (.text stage.name) := by
  rw [Fields.ofRecordField_required]
  simp [h, decoder_text]

namespace Document

variable {d : Document} {r : Record Json}

/-- Field by field, what is read from an object. -/
@[mk_iff]
structure ReadFrom (d : Document) (r : Record Json) : Prop where
  sessionId : Fields.ofRecordField (.required "sessionId" Decoder.text) r = .ok d.sessionId
  stage : Fields.ofRecordField (.required "stage" Stage.decoder) r = .ok d.stage
  oodm : Fields.ofRecordField (.required "oodm" Decoder.raw) r = .ok d.oodm
  dependencyGraph : Fields.ofRecordField (.required "dependencyGraph" Decoder.raw) r =
    .ok d.dependencyGraph
  widgets : Fields.ofRecordField (.required "widgets" (Decoder.list Widget.decoder)) r =
    .ok d.widgets
  layout : Fields.ofRecordField (.required "layout" Decoder.raw) r = .ok d.layout
  metadata : Fields.ofRecordField (.required "metadata" Decoder.raw) r = .ok d.metadata

theorem readFrom_of_decoder (h : decoder (.object r) = .ok d) : d.ReadFrom r := by
  have hread := Fields.ofRecord_of_decoder h
  simp only [Fields.ofRecord_and] at hread
  obtain ⟨_, ⟨_, ⟨_, ⟨_, ⟨_, ⟨_, ⟨_, ⟨⟩, s, hs, rfl⟩, t, ht, rfl⟩, o, ho, rfl⟩, g, hg, rfl⟩, w, hw,
    rfl⟩, l, hl, rfl⟩, m, hm, rfl⟩ := hread
  exact ⟨hs, ht, ho, hg, hw, hl, hm⟩

theorem decoder_object (hr : r.Distinct) : decoder (.object r) = .ok d ↔ d.ReadFrom r := by
  refine ⟨readFrom_of_decoder, fun h => (Fields.Sound.decoder_object
    ((((((((Fields.done_sound _).and _).and _).and _).and _).and _).and _).and _) hr).mpr ?_⟩
  simp only [Fields.ofRecord_and]
  exact ⟨_, ⟨_, ⟨_, ⟨_, ⟨_, ⟨_, ⟨_, rfl, _, h.sessionId, rfl⟩, _, h.stage, rfl⟩, _, h.oodm, rfl⟩, _,
    h.dependencyGraph, rfl⟩, _, h.widgets, rfl⟩, _, h.layout, rfl⟩, _, h.metadata, rfl⟩

end Document

end Stagewise
