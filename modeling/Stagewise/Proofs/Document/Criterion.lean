import Stagewise.Document.Basic
import Stagewise.Proofs.Document.Filling
import Stagewise.Text.Blank

/-! Which raw documents can be used, and what they become, said of the raw values themselves and
without filling, validation or typed reading. -/

namespace Stagewise

namespace Json

/-- Missing, `null` or with the property. -/
def IfGiven (json : Json) (name : String) (P : Json → Prop) : Prop :=
  ∀ value, json.given? name = some value → P value

/-- The value of an optional field: what is given for it, or else its default. -/
def Optional {α : Type} (json : Json) (name : String) (encode : α → Json) (default a : α) : Prop :=
  json.given? name = some (encode a) ∨ json.given? name = none ∧ a = default

def IsText (json : Json) : Prop := ∃ s, json = .text s

def IsWord32 (json : Json) : Prop := ∃ n : Nat, json = .int n ∧ n < UInt32.size

def IsArray (json : Json) : Prop := ∃ items, json = .array items

def IsTextArray (json : Json) : Prop := ∃ texts : List String, json = .array (texts.map Json.text)

theorem isObject_of_field? {json value : Json} {name : String} (h : json.field? name = some value) :
    json.isObject = true := by
  cases json with
  | object fields => rfl
  | _ => cases h

theorem exists_optional_iff {α : Type} (encode : α → Json) (default : α) {json : Json}
    {name : String} :
    (∃ a, json.Optional name encode default a) ↔
      json.IfGiven name fun value => ∃ a, value = encode a := by
  unfold Optional IfGiven
  cases json.given? name with
  | none => simp
  | some value => simp

theorem exists_optional_raw (json : Json) (name : String) (default : Json) :
    ∃ a, json.Optional name (fun value => value) default a :=
  (exists_optional_iff _ _).mpr fun value _ => ⟨value, rfl⟩

theorem isWord32_iff {json : Json} : json.IsWord32 ↔ ∃ n : UInt32, json = .int n.toNat := by
  constructor
  · rintro ⟨n, rfl, hn⟩
    exact ⟨UInt32.ofNat n, by rw [UInt32.toNat_ofNat_of_lt' hn]⟩
  · rintro ⟨n, rfl⟩
    exact ⟨n.toNat, rfl, n.toNat_lt⟩

end Json

namespace WidgetMetadata

/-- Metadata is an object or an array of its four parts. -/
inductive Acceptable : Json → Prop
  | object {r : Record Json} (timing : (Json.object r).IfGiven "timing" Json.IsText)
      (versatility : (Json.object r).IfGiven "versatility" Json.IsText)
      (bottleneck : (Json.object r).IfGiven "bottleneck" Json.IsTextArray)
      (description : (Json.object r).IfGiven "description" Json.IsText) : Acceptable (.object r)
  | array {timing versatility bottleneck description : Json} (timingText : timing.IsText)
      (versatilityText : versatility.IsText) (bottleneckTexts : bottleneck.IsTextArray)
      (descriptionText : description.IsText) :
      Acceptable (.array [timing, versatility, bottleneck, description])

/-- The metadata that a raw value becomes. -/
inductive Completes (m : WidgetMetadata) : Json → Prop
  | object {r : Record Json} (timing : (Json.object r).Optional "timing" .text "any" m.timing)
      (versatility : (Json.object r).Optional "versatility" .text "medium" m.versatility)
      (bottleneck : (Json.object r).Optional "bottleneck" (fun texts => .array (texts.map Json.text))
        [] m.bottleneck)
      (description : (Json.object r).Optional "description" .text "" m.description) :
      m.Completes (.object r)
  | array : m.Completes (.array [.text m.timing, .text m.versatility,
      .array (m.bottleneck.map Json.text), .text m.description])

theorem acceptable_iff {raw : Json} : Acceptable raw ↔ ∃ m : WidgetMetadata, m.Completes raw := by
  constructor
  · rintro (⟨ht, hv, hb, hd⟩ | ⟨⟨t, rfl⟩, ⟨v, rfl⟩, ⟨b, rfl⟩, ⟨d, rfl⟩⟩)
    · obtain ⟨t, ht⟩ := (Json.exists_optional_iff Json.text "any").mpr ht
      obtain ⟨v, hv⟩ := (Json.exists_optional_iff Json.text "medium").mpr hv
      obtain ⟨b, hb⟩ := (Json.exists_optional_iff (fun texts => .array (texts.map Json.text))
        []).mpr hb
      obtain ⟨d, hd⟩ := (Json.exists_optional_iff Json.text "").mpr hd
      exact ⟨⟨t, v, b, d⟩, .object ht hv hb hd⟩
    · exact ⟨⟨t, v, b, d⟩, .array⟩
  · rintro ⟨m, ht, hv, hb, hd⟩
    · exact .object ((Json.exists_optional_iff _ _).mp ⟨_, ht⟩)
        ((Json.exists_optional_iff _ _).mp ⟨_, hv⟩) ((Json.exists_optional_iff _ _).mp ⟨_, hb⟩)
        ((Json.exists_optional_iff _ _).mp ⟨_, hd⟩)
    · exact .array ⟨_, rfl⟩ ⟨_, rfl⟩ ⟨_, rfl⟩ ⟨_, rfl⟩

theorem ifGiven_acceptable_iff {raw : Json} {name : String} :
    raw.IfGiven name Acceptable ↔
      ∃ m : WidgetMetadata, m.Completes ((raw.given? name).getD (.object [])) := by
  unfold Json.IfGiven
  cases raw.given? name with
  | none =>
    have hempty : (⟨"any", "medium", [], ""⟩ : WidgetMetadata).Completes (.object []) :=
      .object (.inr ⟨rfl, rfl⟩) (.inr ⟨rfl, rfl⟩) (.inr ⟨rfl, rfl⟩) (.inr ⟨rfl, rfl⟩)
    exact ⟨fun _ => ⟨_, hempty⟩, fun _ value hv => nomatch hv⟩
  | some value => simp [acceptable_iff]

end WidgetMetadata

namespace Widget

/-- The component is a text that is not blank, and one of those that may be used. -/
def HasComponent (eligible : Option (List String)) (raw : Json) : Prop :=
  ∃ s, raw.field? "component" = some (.text s) ∧ isBlankText s = false ∧
    ∀ ids, eligible = some ids → s ∈ ids

structure Acceptable (eligible : Option (List String)) (raw : Json) : Prop where
  object : raw.isObject = true
  component : HasComponent eligible raw
  id : raw.IfGiven "id" Json.IsText
  position : raw.IfGiven "position" Json.IsWord32
  inputs : raw.IfGiven "inputs" Json.IsArray
  outputs : raw.IfGiven "outputs" Json.IsArray
  reactiveBindings : raw.IfGiven "reactiveBindings" Json.IsArray
  metadata : raw.IfGiven "metadata" WidgetMetadata.Acceptable

/-- The widget that the raw one at a place becomes. -/
structure Completes (w : Widget) (place : Nat) (raw : Json) : Prop where
  component : raw.field? "component" = some (.text w.component)
  id : raw.Optional "id" .text ("widget-" ++ toString (place + 1)) w.id
  position : raw.Optional "position" (fun n => .int n.toNat) (UInt32.ofNat place) w.position
  layout : raw.Optional "layout" (fun value => value) (.object []) w.layout
  config : raw.Optional "config" (fun value => value) (.object []) w.config
  inputs : raw.Optional "inputs" .array [] w.inputs
  outputs : raw.Optional "outputs" .array [] w.outputs
  reactiveBindings : raw.Optional "reactiveBindings" .array [] w.reactiveBindings
  metadata : w.metadata.Completes ((raw.given? "metadata").getD (.object []))

theorem acceptable_iff {eligible : Option (List String)} (place : Nat) {raw : Json} :
    Acceptable eligible raw ↔ HasComponent eligible raw ∧ ∃ w : Widget, w.Completes place raw := by
  constructor
  · intro h
    obtain ⟨c, hc, -, -⟩ := h.component
    obtain ⟨i, hi⟩ := (Json.exists_optional_iff Json.text
      ("widget-" ++ toString (place + 1))).mpr h.id
    obtain ⟨p, hp⟩ := (Json.exists_optional_iff (fun n : UInt32 => .int n.toNat)
      (UInt32.ofNat place)).mpr fun value hv => Json.isWord32_iff.mp (h.position value hv)
    obtain ⟨l, hl⟩ := raw.exists_optional_raw "layout" (.object [])
    obtain ⟨g, hg⟩ := raw.exists_optional_raw "config" (.object [])
    obtain ⟨n, hn⟩ := (Json.exists_optional_iff Json.array []).mpr h.inputs
    obtain ⟨o, ho⟩ := (Json.exists_optional_iff Json.array []).mpr h.outputs
    obtain ⟨b, hb⟩ := (Json.exists_optional_iff Json.array []).mpr h.reactiveBindings
    obtain ⟨m, hm⟩ := WidgetMetadata.ifGiven_acceptable_iff.mp h.metadata
    exact ⟨h.component, ⟨i, c, p, l, g, n, o, b, m⟩, hc, hi, hp, hl, hg, hn, ho, hb, hm⟩
  · rintro ⟨hc, w, h⟩
    have hposition := (Json.exists_optional_iff _ _).mp ⟨_, h.position⟩
    exact {
      object := Json.isObject_of_field? h.component
      component := hc
      id := (Json.exists_optional_iff _ _).mp ⟨_, h.id⟩
      position := fun value hv => Json.isWord32_iff.mpr (hposition value hv)
      inputs := (Json.exists_optional_iff _ _).mp ⟨_, h.inputs⟩
      outputs := (Json.exists_optional_iff _ _).mp ⟨_, h.outputs⟩
      reactiveBindings := (Json.exists_optional_iff _ _).mp ⟨_, h.reactiveBindings⟩
      metadata := WidgetMetadata.ifGiven_acceptable_iff.mpr ⟨_, h.metadata⟩ }

end Widget

namespace Document

structure Acceptable (eligible : Option (List String)) (raw : Json) : Prop where
  object : raw.isObject = true
  sessionId : ∃ s, raw.field? "sessionId" = some (.text s) ∧ isBlankText s = false
  stage : ∃ stage : Stage, raw.field? "stage" = some (.text stage.name)
  widgets : ∃ items, raw.field? "widgets" = some (.array items) ∧ items ≠ [] ∧
    ∀ item ∈ items, Widget.Acceptable eligible item

/-- The document that a raw one becomes. -/
structure Completes (d : Document) (raw : Json) : Prop where
  sessionId : raw.field? "sessionId" = some (.text d.sessionId)
  stage : raw.field? "stage" = some (.text d.stage.name)
  oodm : raw.Optional "oodm" (fun value => value) (.object []) d.oodm
  dependencyGraph : raw.Optional "dependencyGraph" (fun value => value)
    (.ofFields [("nodes", .array []), ("edges", .array [])]) d.dependencyGraph
  layout : raw.Optional "layout" (fun value => value) (.ofFields [("type", .text "single")]) d.layout
  metadata : raw.Optional "metadata" (fun value => value) (.object []) d.metadata
  widgets : ∃ items, raw.field? "widgets" = some (.array items) ∧
    d.widgets.length = items.length ∧
    ∀ (i : Nat) item w, items[i]? = some item → d.widgets[i]? = some w → w.Completes i item

theorem exists_widgets {eligible : Option (List String)} {items : List Json} (place : Nat)
    (h : ∀ item ∈ items, Widget.Acceptable eligible item) :
    ∃ ws : List Widget, ws.length = items.length ∧ ∀ (i : Nat) item w,
      items[i]? = some item → ws[i]? = some w → w.Completes (place + i) item := by
  induction items generalizing place with
  | nil => exact ⟨[], rfl, by simp⟩
  | cons first rest ih =>
    obtain ⟨-, w, hw⟩ := (Widget.acceptable_iff place).mp (h first List.mem_cons_self)
    obtain ⟨ws, hlength, hws⟩ := ih (place + 1) fun item hitem => h item (.tail _ hitem)
    refine ⟨w :: ws, by simp [hlength], fun i item v hitem hv => ?_⟩
    cases i with
    | zero =>
      obtain rfl : first = item := by simpa using hitem
      obtain rfl : w = v := by simpa using hv
      exact hw
    | succ i =>
      have hrest := hws i item v (by simpa using hitem) (by simpa using hv)
      rwa [Nat.add_right_comm] at hrest

theorem Acceptable.exists_completes {eligible : Option (List String)} {raw : Json}
    (h : Acceptable eligible raw) : ∃ d : Document, d.Completes raw := by
  obtain ⟨s, hs, -⟩ := h.sessionId
  obtain ⟨t, ht⟩ := h.stage
  obtain ⟨items, hitems, -, hacceptable⟩ := h.widgets
  obtain ⟨ws, hlength, hws⟩ := exists_widgets 0 hacceptable
  obtain ⟨o, ho⟩ := raw.exists_optional_raw "oodm" (.object [])
  obtain ⟨g, hg⟩ := raw.exists_optional_raw "dependencyGraph"
    (.ofFields [("nodes", .array []), ("edges", .array [])])
  obtain ⟨l, hl⟩ := raw.exists_optional_raw "layout" (.ofFields [("type", .text "single")])
  obtain ⟨m, hm⟩ := raw.exists_optional_raw "metadata" (.object [])
  exact ⟨⟨s, t, o, g, ws, l, m⟩, hs, ht, ho, hg, hl, hm, items, hitems, hlength,
    fun i item w hitem hw => by simpa using hws i item w hitem hw⟩

end Document

end Stagewise
