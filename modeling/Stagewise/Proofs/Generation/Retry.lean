import Stagewise.Proofs.Generation.Attempts
import Stagewise.Proofs.Outcome

/-! Generations of widgets. The first answer that holds a document ends the run with a success; when
none does, the run ends after the last attempt that is allowed, and its error is the one told. -/

namespace Stagewise

namespace Generator

variable {σ : Type} (g : Generator) (model : Model σ) (r : Request)

/-- The prompt of the first attempt at a request. -/
def basePrompt : String :=
  Prompt.widget r (g.catalog.describe (g.eligible r)) (g.eligible r)

theorem calls_persist (d : Document) (s : GenerationState σ) :
    ((g.persist d).run s).2.calls = s.calls := by
  unfold persist
  split <;> rfl

theorem calls_recordMetrics (result : GenerationResult) (s : GenerationState σ) :
    ((recordMetrics r result).run s).2.calls = s.calls := by
  unfold recordMetrics
  split <;> rfl

/-- What is told of the attempts at a request. -/
def resultOf (outcome : AttemptsOutcome) (metrics : GenerationMetrics) : GenerationResult :=
  match outcome.document with
  | .ok (document, retries) => .ofDocument document (UInt32.ofNat retries) metrics
  | .error last => .failure .widget g.config.maxRetries (failureText last) metrics

variable {g model r}

theorem run_generateWidgets {s t : GenerationState σ} {outcome : AttemptsOutcome}
    (h : (g.attempts model (g.basePrompt r) (g.eligible r) g.config.maxRetries.toNat 0 .zero
      none).run s = (outcome, t)) :
    (g.generateWidgets model r (g.eligible r)).run s =
      (g.resultOf outcome (.ofUsage outcome.usage (model.clock t.model - model.clock s.model)),
        t) := by
  have hstart : (get : Generation σ (GenerationState σ)).run s = (s, s) := rfl
  unfold generateWidgets
  rw [run_bind hstart]
  refine (run_bind h).trans ?_
  obtain ⟨document, usage⟩ := outcome
  cases document <;> rfl

theorem run_generate (hvalid : r.validate = .ok ()) (hmode : r.options.textOnlyMode = false)
    (heligible : g.eligible r ≠ []) {s t : GenerationState σ} {result : GenerationResult}
    (h : (g.generateWidgets model r (g.eligible r)).run s = (result, t)) :
    (g.generate model r).run s = (.ok result, ((recordMetrics r result).run t).2) := by
  have hwidgets : (r.options.textOnlyMode || (g.eligible r).isEmpty) = false := by
    simp [hmode, heligible]
  unfold generate
  simp only [hvalid, hwidgets, Bool.false_eq_true, if_false]
  rw [run_bind h]
  rfl

/-- The attempts are counted from zero, so the first accepted answer comes after as many retries as
its number says. When there is none, what is told is what there is to say of the last attempt. -/
theorem generate_first_accepted {σ : Type} (g : Generator) (model : Model σ) (r : Request)
    (s : GenerationState σ) (p : g.Playback model (g.basePrompt r) (g.eligible r) s.model)
    (hvalid : r.validate = .ok ()) (hmode : r.options.textOnlyMode = false)
    (heligible : g.eligible r ≠ []) (hretries : 1 ≤ g.config.maxRetries.toNat) :
    let limit := g.config.attemptTimeout
    let call := g.attemptCall (g.basePrompt r) (g.eligible r) p.answers
    let run := (g.generate model r).run s
    (∀ n d, n < g.config.maxRetries.toNat → (p.answers n).Accepted (g.eligible r) d →
      (∀ j < n, ∀ d', ¬(p.answers j).Accepted (g.eligible r) d') →
        ∃ retries metrics, retries.toNat = n ∧
          run.1 = .ok
            { success := true, mode := .widget, uiSpec := some d, textSummary := none,
              retryCount := retries, error := none, metrics := some metrics } ∧
          run.2.calls = s.calls ++ (List.range (n + 1)).map call) ∧
    ((∀ j < g.config.maxRetries.toNat, ∀ d, ¬(p.answers j).Accepted (g.eligible r) d) →
      ∃ e text metrics,
        (p.answers (g.config.maxRetries.toNat - 1)).Refused limit (g.eligible r) e ∧
        e.Says text ∧
        run.1 = .ok
          { success := false, mode := .widget, uiSpec := none, textSummary := none,
            retryCount := g.config.maxRetries, error := some text, metrics := some metrics } ∧
        run.2.calls = s.calls ++ (List.range g.config.maxRetries.toNat).map call) := by
  have hrefused {n : Nat} (h : ∀ j < n, ∀ d, ¬(p.answers j).Accepted (g.eligible r) d) :
      ∀ j < n, ∃ e, (p.answers j).Refused g.config.attemptTimeout (g.eligible r) e :=
    fun j hj => Answer.refused_of_not_accepted _ (h j hj)
  intro limit call run
  constructor
  · intro n d hn hd hfirst
    have hattempts := p.run_accepted hn hd (hrefused hfirst)
    have hrun := run_generate hvalid hmode heligible (run_generateWidgets hattempts)
    refine ⟨UInt32.ofNat n, _, ?_, congrArg Prod.fst hrun, ?_⟩
    · exact UInt32.toNat_ofNat_of_lt' (Nat.lt_trans hn (UInt32.toNat_lt _))
    · rw [congrArg Prod.snd hrun, calls_recordMetrics, calls_persist]
      rfl
  · intro hnone
    obtain ⟨last, hlast⟩ : ∃ last, g.config.maxRetries.toNat = last + 1 :=
      ⟨g.config.maxRetries.toNat - 1, by omega⟩
    obtain ⟨e, he⟩ := hrefused hnone last (by omega)
    have hattempts := p.run_refused (hrefused hnone)
    rw [hlast, lastError_succ he, ← hlast] at hattempts
    have hrun := run_generate hvalid hmode heligible (run_generateWidgets hattempts)
    refine ⟨e, e.message, _, by simpa [hlast] using he, AttemptError.says_iff.mpr rfl,
      congrArg Prod.fst hrun, ?_⟩
    rw [congrArg Prod.snd hrun, calls_recordMetrics]
    rfl

/-- An answer that comes too late is made up for by the next. When an array and an empty object
follow instead, the run ends with what was wrong with the object. -/
theorem generate_second_or_none_accepted :
    let catalog := (Catalog.empty.setStage .summary ["recap"]).addImplemented ["recap"]
    let g : Generator := ⟨catalog, .standard, none⟩
    let r : Request := .new "s" "moving" .summary
    let payload : Json := .ofFields
      [("sessionId", .text "s"), ("stage", .text "summary"),
        ("widgets", .array [.ofFields [("component", .text "recap")]])]
    let accepted (n : Nat) : Answer Json := if n = 0 then .late else .reply payload none
    let refused : Nat → Answer Json
      | 0 => .late
      | 1 => .reply (.array []) none
      | _ => .reply (.object []) none
    let s : GenerationState Nat := ⟨0, .standard, [], []⟩
    r.validate = .ok () ∧ r.options.textOnlyMode = false ∧ g.eligible r ≠ [] ∧
      1 ≤ g.config.maxRetries.toNat ∧
      (∃ d retries metrics, retries.toNat = 1 ∧
        ((g.generate (.playing accepted) r).run s).1 = .ok
          { success := true, mode := .widget, uiSpec := some d, textSummary := none,
            retryCount := retries, error := none, metrics := some metrics }) ∧
      (∃ metrics, ((g.generate (.playing refused) r).run s).1 = .ok
        { success := false, mode := .widget, uiSpec := none, textSummary := none, retryCount := 3,
          error := some ("Generated document failed validation: " ++
            "missing sessionId; missing stage; missing widgets array"),
          metrics := some metrics }) ∧
      ((g.generate (.playing refused) r).run s).2.calls.length = 3 := by
  intro catalog g r payload accepted refused s
  have hvalid : r.validate = .ok () := Outcome.toOption_eq_some_iff.mp (by decide +kernel)
  have hmode : r.options.textOnlyMode = false := rfl
  have heligible : g.eligible r ≠ [] := by decide +kernel
  have hretries : 1 ≤ g.config.maxRetries.toNat := by decide
  have haccept : ∃ d, Document.accept (some (g.eligible r)) payload = .ok d :=
    ⟨⟨"s", .summary, .object [], .ofFields [("nodes", .array []), ("edges", .array [])],
      [⟨"widget-1", "recap", 0, .object [], .object [], [], [], [], ⟨"any", "medium", [], ""⟩⟩],
      .ofFields [("type", .text "single")], .object []⟩,
      Outcome.toOption_eq_some_iff.mp (by decide +kernel)⟩
  obtain ⟨d, hd⟩ := haccept
  have hfirst : ∀ j < 1, ∀ d', ¬(accepted j).Accepted (g.eligible r) d' := by
    intro j hj d' hd'
    obtain rfl : j = 0 := by omega
    cases hd'
  obtain ⟨hsuccess, -⟩ :=
    generate_first_accepted g _ r s (.ofAnswers accepted) hvalid hmode heligible hretries
  obtain ⟨retries, metrics, hn, hresult, -⟩ := hsuccess 1 d (by decide) (.reply rfl hd) hfirst
  have hempty : Document.accept (some (g.eligible r)) (.object []) =
      .error [.missingSessionId, .missingStage, .missingWidgets] := by
    have hviolations : Document.violations (some (g.eligible r)) (Document.fill (.object [])) =
        [.missingSessionId, .missingStage, .missingWidgets] := by
      decide +kernel
    rw [Document.accept, hviolations]
  have hnone : ∀ j < g.config.maxRetries.toNat, ∀ d', ¬(refused j).Accepted (g.eligible r) d' := by
    intro j _ d' hd'
    match j, hd' with
    | 1, .reply object _ => cases object
    | _ + 2, .reply _ accepted => cases hempty.symm.trans accepted
  obtain ⟨-, hfailure⟩ :=
    generate_first_accepted g _ r s (.ofAnswers refused) hvalid hmode heligible hretries
  obtain ⟨e, text, metrics', he, hsays, hfailed, hcalls⟩ := hfailure hnone
  have htext : text = "Generated document failed validation: " ++
      "missing sessionId; missing stage; missing widgets array" := by
    cases he with
    | notObject other => cases other
    | rejected _ rejected =>
      obtain rfl := Except.error.inj (rejected.symm.trans hempty)
      rw [AttemptError.says_iff.mp hsays]
      decide +kernel
  refine ⟨hvalid, hmode, heligible, hretries, ⟨d, retries, metrics, hn, hresult⟩,
    ⟨metrics', ?_⟩, ?_⟩
  · rw [hfailed, htext]
    rfl
  · rw [hcalls]
    rfl

end Generator

end Stagewise
