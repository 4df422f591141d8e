import Stagewise.Proofs.Document.Accepted
import Stagewise.Proofs.Generation.Outcomes
import Stagewise.Proofs.Text.Blank

/-! What holds of every result. Whichever way a generation ends, the parts of its result agree with
each other, with the request and with the catalog. -/

namespace Stagewise

theorem Catalog.mem_eligible_iff {c : Catalog} {stage : Stage} {onlyImplemented : Bool}
    {id : String} :
    id ∈ c.eligible stage onlyImplemented ↔
      id ∈ c.stages stage ∧ (onlyImplemented = true → c.isImplemented id = true) := by
  cases onlyImplemented <;> simp [eligible]

/-- The answer is a text, and trimmed it is a summary with something in it. -/
def Answer.Says (answer : Answer String) (summary : String) : Prop :=
  ∃ text usage, answer = .reply text usage ∧ trimmed text ≠ "" ∧ summary = trimmed text

theorem Answer.summary_cases (limit : Duration) (answer : Answer String) :
    (∃ text, answer.summary limit = .ok text ∧ answer.Says text) ∨
      (∃ e, answer.summary limit = .error e) ∧ ∀ text, ¬answer.Says text := by
  have hnone {a : Answer String} (h : ∀ text usage, a = .reply text usage → trimmed text = "") :
      ∀ text, ¬a.Says text := by
    rintro summary ⟨text, usage, he, hne, -⟩
    exact hne (h text usage he)
  cases answer with
  | reply text usage =>
    have hsummary : (reply text usage).summary limit =
        if isBlankText text then .error (.model .emptyResponse) else .ok (trimmed text) := rfl
    by_cases hblank : isBlankText text = true
    · rw [if_pos hblank] at hsummary
      refine .inr ⟨⟨_, hsummary⟩, hnone fun other _ he => ?_⟩
      cases he
      exact trimmed_eq_empty_iff.mpr hblank
    · rw [if_neg hblank] at hsummary
      have hne : trimmed text ≠ "" := fun he => hblank (trimmed_eq_empty_iff.mp he)
      exact .inl ⟨trimmed text, hsummary, text, usage, rfl, hne, rfl⟩
  | failure e => exact .inr ⟨⟨_, rfl⟩, hnone fun _ _ he => nomatch he⟩
  | late => exact .inr ⟨⟨_, rfl⟩, hnone fun _ _ he => nomatch he⟩

namespace GenerationResult

/-- A success brings what its mode asks for, and a failure tells why it brings nothing. -/
structure Coherent (result : GenerationResult) : Prop where
  uiSpec : result.uiSpec.isSome = true ↔ result.mode = .widget ∧ result.success = true
  textSummary : result.textSummary.isSome = true ↔ result.mode = .text ∧ result.success = true
  error : result.error.isSome = true ↔ result.success = false

theorem Coherent.document (d : Document) (retries : UInt32) (metrics : GenerationMetrics) :
    (ofDocument d retries metrics).Coherent := by
  constructor <;> simp [ofDocument]

theorem Coherent.summary (summary : String) (metrics : GenerationMetrics) :
    (ofSummary summary metrics).Coherent := by
  constructor <;> simp [ofSummary]

theorem Coherent.failure (mode : Mode) (retries : UInt32) (error : String)
    (metrics : GenerationMetrics) :
    (GenerationResult.failure mode retries error metrics).Coherent := by
  constructor <;> simp [GenerationResult.failure]

/-- What a result has of the only answer in prose. -/
structure Tells (result : GenerationResult) (answer : Answer String) : Prop where
  retryCount : result.retryCount = 0
  success : result.success = true ↔ ∃ summary, answer.Says summary
  textSummary : ∀ summary, answer.Says summary → result.textSummary = some summary

end GenerationResult

theorem Answer.Says.unique {answer : Answer String} {summary other : String}
    (h : answer.Says summary) (h' : answer.Says other) : summary = other := by
  obtain ⟨text, usage, rfl, -, rfl⟩ := h
  obtain ⟨text', usage', he, -, rfl⟩ := h'
  cases he
  rfl

namespace Generator

variable {σ : Type}

theorem proseResult_tells (g : Generator) (answer : Answer String) (metrics : GenerationMetrics) :
    (g.proseResult answer metrics).mode = .text ∧ (g.proseResult answer metrics).Coherent ∧
      (g.proseResult answer metrics).uiSpec = none ∧
      (g.proseResult answer metrics).Tells answer := by
  unfold proseResult
  rcases answer.summary_cases g.config.attemptTimeout with ⟨summary, h, hsaid⟩ | ⟨⟨e, h⟩, hnone⟩
  · rw [h]
    exact ⟨rfl, .summary summary metrics, rfl, rfl, ⟨fun _ => ⟨summary, hsaid⟩, fun _ => rfl⟩,
      fun other hother => congrArg some (hsaid.unique hother)⟩
  · rw [h]
    refine ⟨rfl, .failure .text 0 e.message metrics, rfl, rfl, ⟨nofun, ?_⟩,
      fun other hother => absurd hother (hnone other)⟩
    rintro ⟨summary, hsaid⟩
    exact absurd hsaid (hnone summary)

/-- What holds of the result of a generation and of the state after it. -/
structure ResultLaws (g : Generator) (model : Model σ) (r : Request) (s t : GenerationState σ)
    (result : GenerationResult) : Prop where
  coherent : result.Coherent
  mode : result.mode = .text ↔ g.InProse r
  widgets : ∀ d, result.uiSpec = some d → d.widgets ≠ [] ∧
    (∀ w ∈ d.widgets, w.component ∈ g.eligible r ∧
      (r.options.restrictToImplemented = true → g.catalog.isImplemented w.component = true)) ∧
    result.retryCount < g.config.maxRetries
  prose : result.mode = .text → t.calls = s.calls ++ [⟨.text, Prompt.text r⟩] ∧
    result.Tells (model.text (Prompt.text r) s.model).1

theorem generate_resultLaws (g : Generator) (model : Model σ) (r : Request)
    (s t : GenerationState σ) (result : GenerationResult)
    (h : (g.generate model r).run s = (.ok result, t)) : g.ResultLaws model r s t result := by
  obtain ⟨u, hend, rfl⟩ := (Playback.ofModel g model (g.basePrompt r) (g.eligible r)
    s.model).endsIn_of_generate h
  cases hend with
  | prose hmode metrics =>
    obtain ⟨htext, hcoherent, hnone, htells⟩ :=
      g.proseResult_tells (model.text (Prompt.text r) s.model).1 metrics
    exact {
      coherent := hcoherent
      mode := ⟨fun _ => hmode, fun _ => htext⟩
      widgets := fun d hd => by cases hnone.symm.trans hd
      prose := fun _ => ⟨by rw [calls_recordMetrics]; rfl, htells⟩ }
  | @accepted hmode n d hallowed haccepted hfirst metrics =>
    obtain ⟨payload, usage, -, haccept⟩ := haccepted.exists_reply
    obtain ⟨hne, hcomponents⟩ := Document.widgets_of_accept haccept
    exact {
      coherent := .document d _ metrics
      mode := ⟨nofun, fun hprose => absurd hprose hmode⟩
      widgets := by
        rintro _ ⟨⟩
        refine ⟨hne, fun w hw => ?_, ?_⟩
        · have hmem := hcomponents w hw _ rfl
          exact ⟨hmem, (Catalog.mem_eligible_iff.mp hmem).2⟩
        · rw [UInt32.lt_iff_toNat_lt]
          exact (toNat_ofNat_of_allowed hallowed).trans_lt hallowed
      prose := nofun }
  | refused hmode hall metrics =>
    exact {
      coherent := .failure .widget _ _ metrics
      mode := ⟨nofun, fun hprose => absurd hprose hmode⟩
      widgets := nofun
      prose := nofun }

/-- A widget that cannot be displayed is refused, and the next answer is taken. -/
theorem generate_displayable_second :
    let catalog := (Catalog.empty.setStage .summary ["chart", "recap"]).addImplemented ["recap"]
    let g : Generator := ⟨catalog, .standard, none⟩
    let r : Request := .new "s" "moving" .summary
    let payload (component : String) : Json := .ofFields
      [("sessionId", .text "s"), ("stage", .text "summary"),
        ("widgets", .array [.ofFields [("component", .text component)]])]
    let model := Model.playing fun n => .reply (payload (if n = 0 then "chart" else "recap")) none
    let s : GenerationState Nat := ⟨0, .standard, [], []⟩
    ∃ result t, (g.generate model r).run s = (.ok result, t) ∧
      result.success = true ∧ result.retryCount = 1 ∧ g.ResultLaws model r s t result := by
  intro catalog g r payload model s
  have hparts : ((g.generate model r).run s).1.toOption.map
      (fun result => (result.success, result.retryCount)) = some (true, 1) := by
    decide +kernel
  obtain ⟨result, hrun, hparts⟩ := exists_result_of_run hparts
  obtain ⟨hsuccess, hretries⟩ := Prod.mk.inj hparts
  exact ⟨result, _, hrun, hsuccess, hretries, generate_resultLaws g model r s _ result hrun⟩

end Generator

end Stagewise
