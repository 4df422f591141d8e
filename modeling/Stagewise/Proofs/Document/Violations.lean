import Mathlib.Data.List.Basic
import Stagewise.Proofs.Document.Acceptance

/-! The list of violations. What is wrong with a document is said of the raw value, one case for
each rule, and the list has all of it: those of the document first and then at most one for each
widget, from the first widget to the last. -/

namespace Stagewise

/-- The field is a text that is not blank. -/
def Json.HasText (json : Json) (name : String) : Prop :=
  ∃ s, json.field? name = some (.text s) ∧ isBlankText s = false

namespace Violation

/-- The rules that a raw document can break. -/
inductive Occurs (eligible : Option (List String)) (raw : Json) : Violation → Prop
  | sessionId (h : ¬raw.HasText "sessionId") : Occurs eligible raw .missingSessionId
  | stage (h : ¬raw.HasText "stage") : Occurs eligible raw .missingStage
  | widgets (h : ∀ items, raw.field? "widgets" ≠ some (.array items)) :
    Occurs eligible raw .missingWidgets
  | noWidget (h : raw.field? "widgets" = some (.array [])) : Occurs eligible raw .emptyWidgets
  | component {items : List Json} {item : Json} {i : Nat}
    (hitems : raw.field? "widgets" = some (.array items)) (hitem : items[i]? = some item)
    (h : ¬item.HasText "component") : Occurs eligible raw (.missingComponent i)
  | eligibility {items : List Json} {item : Json} {i : Nat} {s : String} {ids : List String}
    (hitems : raw.field? "widgets" = some (.array items)) (hitem : items[i]? = some item)
    (hfield : item.field? "component" = some (.text s)) (hblank : isBlankText s = false)
    (hids : eligible = some ids) (h : s ∉ ids) : Occurs eligible raw (.ineligibleComponent i s)

/-- Where a violation is reported. A document that does not fit its type is reported alone. -/
def rank : Violation → Nat
  | missingSessionId => 0
  | missingStage => 1
  | missingWidgets | emptyWidgets => 2
  | missingComponent i | ineligibleComponent i _ => i + 3
  | malformed _ => 0

def Before (v w : Violation) : Prop :=
  v.rank < w.rank

/-- Whether it is about a component that is among the ids. -/
def liftedBy (ids : List String) : Violation → Bool
  | ineligibleComponent _ component => ids.contains component
  | _ => false

end Violation

namespace Document

/-- All that is wrong with a document and nothing else, each once and in its place. -/
structure Reports (eligible : Option (List String)) (raw : Json) (vs : List Violation) : Prop where
  exact : ∀ v, v ∈ vs ↔ v.Occurs eligible raw
  ordered : vs.Pairwise Violation.Before

section

variable {eligible : Option (List String)} {raw : Json} {v w : Violation} {vs ws : List Violation}

theorem Reports.nodup (h : Reports eligible raw vs) : vs.Nodup := by
  refine h.ordered.imp fun {v w} hvw he => ?_
  subst he
  exact Nat.lt_irrefl _ hvw

theorem Reports.unique (hv : Reports eligible raw vs) (hw : Reports eligible raw ws) : vs = ws := by
  have hmem : ∀ v, v ∈ vs ↔ v ∈ ws := fun v => (hv.exact v).trans (hw.exact v).symm
  have hperm := (List.perm_ext_iff_of_nodup hv.nodup hw.nodup).mpr hmem
  refine hperm.eq_of_pairwise (fun v w _ _ hvw hwv => ?_) hv.ordered hw.ordered
  exact absurd hvw (Nat.lt_asymm hwv)

theorem presentText?_eq_none_iff {name : String} :
    presentText? raw name = none ↔ ¬raw.HasText name := by
  simp only [Json.HasText, ← presentText?_eq_some_iff, ← Option.isSome_iff_exists,
    Option.not_isSome_iff_eq_none]

theorem mem_requireText {name : String} :
    v ∈ requireText raw name w ↔ v = w ∧ ¬raw.HasText name := by
  rw [← presentText?_eq_none_iff, requireText]
  cases presentText? raw name <;> simp

theorem mem_widgetViolations {i : Nat} {item : Json} :
    v ∈ widgetViolations eligible i item ↔
      v = .missingComponent i ∧ ¬item.HasText "component" ∨
      ∃ s ids, v = .ineligibleComponent i s ∧ item.field? "component" = some (.text s) ∧
        isBlankText s = false ∧ eligible = some ids ∧ s ∉ ids := by
  rw [← presentText?_eq_none_iff]
  simp only [← and_assoc (a := Json.field? _ _ = _), ← presentText?_eq_some_iff]
  unfold widgetViolations
  cases presentText? item "component" with
  | none => simp
  | some s =>
    cases eligible with
    | none => simp
    | some ids => by_cases h : s ∈ ids <;> simp [h]

theorem rank_of_mem_widgetViolations {i : Nat} {item : Json}
    (h : v ∈ widgetViolations eligible i item) : v.rank = i + 3 := by
  rcases mem_widgetViolations.mp h with ⟨rfl, -⟩ | ⟨s, ids, rfl, -⟩ <;> rfl

theorem mem_flatten_widgetViolations {items : List Json} :
    v ∈ (items.mapIdx (widgetViolations eligible)).flatten ↔
      ∃ (i : Nat) (item : Json), items[i]? = some item ∧ v ∈ widgetViolations eligible i item := by
  simp only [List.mem_flatten, List.mem_mapIdx]
  constructor
  · rintro ⟨_, ⟨i, hi, rfl⟩, hv⟩
    exact ⟨i, items[i], List.getElem?_eq_getElem hi, hv⟩
  · rintro ⟨i, item, hitem, hv⟩
    obtain ⟨hi, rfl⟩ := List.getElem?_eq_some_iff.mp hitem
    exact ⟨_, ⟨i, hi, rfl⟩, hv⟩

theorem mem_widgetsViolations_of_item {items : List Json} {item : Json} {i : Nat}
    (hitems : raw.field? "widgets" = some (.array items)) (hitem : items[i]? = some item)
    (hv : v ∈ widgetViolations eligible i item) :
    v ∈ widgetsViolations eligible (raw.field? "widgets") := by
  rw [hitems]
  cases items with
  | nil => cases hitem
  | cons first rest => exact mem_flatten_widgetViolations.mpr ⟨i, item, hitem, hv⟩

theorem mem_widgetsViolations :
    v ∈ widgetsViolations eligible (raw.field? "widgets") ↔
      v.Occurs eligible raw ∧ 2 ≤ v.rank := by
  constructor
  · intro h
    unfold widgetsViolations at h
    split at h
    · rename_i hempty
      obtain rfl := List.mem_singleton.mp h
      exact ⟨.noWidget hempty, Nat.le_refl _⟩
    · rename_i items _ hitems
      obtain ⟨i, item, hitem, hv⟩ := mem_flatten_widgetViolations.mp h
      have hrank := rank_of_mem_widgetViolations hv
      refine ⟨?_, by omega⟩
      rcases mem_widgetViolations.mp hv with ⟨rfl, hmissing⟩ | ⟨s, ids, rfl, hs, hb, he, hids⟩
      · exact .component hitems hitem hmissing
      · exact .eligibility hitems hitem hs hb he hids
    · rename_i hother
      obtain rfl := List.mem_singleton.mp h
      exact ⟨.widgets hother, Nat.le_refl _⟩
  · rintro ⟨hoccurs, hrank⟩
    cases hoccurs with
    | sessionId => exact absurd hrank (by decide)
    | stage => exact absurd hrank (by decide)
    | widgets h =>
      unfold widgetsViolations
      split
      · exact absurd ‹_› (h _)
      · exact absurd ‹_› (h _)
      · exact List.mem_singleton_self _
    | noWidget h =>
      rw [h]
      exact List.mem_singleton_self _
    | component hitems hitem h =>
      exact mem_widgetsViolations_of_item hitems hitem (mem_widgetViolations.mpr (.inl ⟨rfl, h⟩))
    | eligibility hitems hitem hfield hblank hids h =>
      exact mem_widgetsViolations_of_item hitems hitem
        (mem_widgetViolations.mpr (.inr ⟨_, _, rfl, hfield, hblank, hids, h⟩))

theorem mem_violations : v ∈ violations eligible raw ↔ v.Occurs eligible raw := by
  simp only [violations, List.mem_append, mem_requireText, mem_widgetsViolations]
  constructor
  · rintro ((⟨rfl, h⟩ | ⟨rfl, h⟩) | ⟨h, -⟩)
    · exact .sessionId h
    · exact .stage h
    · exact h
  · intro h
    cases h with
    | sessionId h => exact .inl (.inl ⟨rfl, h⟩)
    | stage h => exact .inl (.inr ⟨rfl, h⟩)
    | widgets h => exact .inr ⟨.widgets h, Nat.le_refl _⟩
    | noWidget h => exact .inr ⟨.noWidget h, Nat.le_refl _⟩
    | component hitems hitem h => exact .inr ⟨.component hitems hitem h, by simp [Violation.rank]⟩
    | eligibility hitems hitem hfield hblank hids h =>
      exact .inr ⟨.eligibility hitems hitem hfield hblank hids h, by simp [Violation.rank]⟩

/-- One at most for each widget. -/
theorem pairwise_widgetViolations (i : Nat) (item : Json) :
    (widgetViolations eligible i item).Pairwise Violation.Before := by
  unfold widgetViolations
  split
  · exact List.pairwise_singleton _ _
  · split
    · exact .nil
    · split
      · exact .nil
      · exact List.pairwise_singleton _ _

theorem pairwise_widgetsViolations (field : Option Json) :
    (widgetsViolations eligible field).Pairwise Violation.Before := by
  unfold widgetsViolations
  split
  · exact List.pairwise_singleton _ _
  · rename_i items _
    refine List.pairwise_flatten.mpr ⟨fun found hfound => ?_, ?_⟩
    · obtain ⟨i, hi, rfl⟩ := List.mem_mapIdx.mp hfound
      exact pairwise_widgetViolations i _
    · refine List.pairwise_iff_getElem.mpr fun i j hi hj hij v hv w hw => ?_
      rw [List.getElem_mapIdx] at hv hw
      have hrank := rank_of_mem_widgetViolations hv
      have hrank' := rank_of_mem_widgetViolations hw
      simp only [Violation.Before]
      omega
  · exact List.pairwise_singleton _ _

theorem pairwise_requireText (name : String) (v : Violation) :
    (requireText raw name v).Pairwise Violation.Before := by
  unfold requireText
  split
  · exact .nil
  · exact List.pairwise_singleton _ _

theorem reports_violations (eligible : Option (List String)) (raw : Json) :
    Reports eligible raw (violations eligible raw) where
  exact _ := mem_violations
  ordered := by
    have hroot : (requireText raw "sessionId" .missingSessionId ++
        requireText raw "stage" .missingStage).Pairwise Violation.Before := by
      refine List.pairwise_append.mpr ⟨pairwise_requireText .., pairwise_requireText .., ?_⟩
      intro v hv w hw
      obtain ⟨rfl, -⟩ := mem_requireText.mp hv
      obtain ⟨rfl, -⟩ := mem_requireText.mp hw
      exact Nat.zero_lt_one
    refine List.pairwise_append.mpr ⟨hroot, pairwise_widgetsViolations _, fun v hv w hw => ?_⟩
    have hrank : v.rank < 2 := by
      rcases List.mem_append.mp hv with hv | hv <;>
        obtain ⟨rfl, -⟩ := mem_requireText.mp hv <;> decide
    exact Nat.lt_of_lt_of_le hrank (mem_widgetsViolations.mp hw).2

theorem occurs_iff_of_subset {ids more : List String} (h : ids ⊆ more) :
    v.Occurs (some more) raw ↔ v.Occurs (some ids) raw ∧ v.liftedBy more = false := by
  constructor
  · intro hv
    cases hv with
    | sessionId h => exact ⟨.sessionId h, rfl⟩
    | stage h => exact ⟨.stage h, rfl⟩
    | widgets h => exact ⟨.widgets h, rfl⟩
    | noWidget h => exact ⟨.noWidget h, rfl⟩
    | component hitems hitem h => exact ⟨.component hitems hitem h, rfl⟩
    | eligibility hitems hitem hfield hblank hids hs =>
      obtain rfl := Option.some.inj hids
      exact ⟨.eligibility hitems hitem hfield hblank rfl fun hmem => hs (h hmem),
        by simpa [Violation.liftedBy] using hs⟩
  · rintro ⟨hv, hlifted⟩
    cases hv with
    | sessionId h => exact .sessionId h
    | stage h => exact .stage h
    | widgets h => exact .widgets h
    | noWidget h => exact .noWidget h
    | component hitems hitem h => exact .component hitems hitem h
    | eligibility hitems hitem hfield hblank hids hs =>
      refine .eligibility hitems hitem hfield hblank rfl ?_
      simpa [Violation.liftedBy] using hlifted

theorem violations_of_subset {ids more : List String} (h : ids ⊆ more) :
    violations (some more) raw =
      (violations (some ids) raw).filter fun v => !v.liftedBy more := by
  refine (reports_violations (some more) raw).unique
    ⟨fun v => ?_, (reports_violations (some ids) raw).ordered.filter _⟩
  rw [List.mem_filter, mem_violations, occurs_iff_of_subset h]
  simp

end

/-- What is reported is determined by the rules, none is broken exactly when nothing is reported,
and a longer list of ids takes away the components that it allows and nothing else. -/
theorem violations_reports_all :
    (∀ eligible raw vs, violations eligible raw = vs ↔ Reports eligible raw vs) ∧
    (∀ eligible raw, violations eligible raw = [] ↔
      ∀ v : Violation, ¬v.Occurs eligible raw) ∧
    ∀ raw (ids more : List String), ids ⊆ more →
      violations (some more) raw =
        (violations (some ids) raw).filter fun v => !v.liftedBy more := by
  refine ⟨fun eligible raw vs => ⟨?_, (reports_violations eligible raw).unique⟩,
    fun eligible raw => ?_, fun raw ids more => violations_of_subset⟩
  · rintro rfl
    exact reports_violations eligible raw
  · rw [List.eq_nil_iff_forall_not_mem]
    exact forall_congr' fun v => not_congr mem_violations

/-- A document without a session whose second widget is no object and whose others are not eligible;
the list then gains the component of the first. -/
theorem violations_mixed_widgets :
    let raw : Json := .ofFields [("stage", .text "diverge"), ("widgets", .array
      [.ofFields [("component", .text "timer")], .null, .ofFields [("component", .text "graph")]])]
    let vs : List Violation :=
      [.missingSessionId, .ineligibleComponent 0 "timer", .missingComponent 1,
        .ineligibleComponent 2 "graph"]
    ["recap"] ⊆ ["timer", "recap"] ∧ violations (some ["recap"]) raw = vs ∧
      Reports (some ["recap"]) raw vs ∧ violations (some ["timer", "recap"]) raw =
        [.missingSessionId, .missingComponent 1, .ineligibleComponent 2 "graph"] := by
  intro raw vs
  have hids : ["recap"] ⊆ ["timer", "recap"] := by simp
  have hvs : violations (some ["recap"]) raw = vs := by decide +kernel
  have hmore := violations_reports_all.2.2 raw _ _ hids
  rw [hvs] at hmore
  exact ⟨hids, hvs, (violations_reports_all.1 _ _ _).mp hvs, hmore⟩

end Document

end Stagewise
