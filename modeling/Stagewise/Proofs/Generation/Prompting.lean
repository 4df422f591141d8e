import Stagewise.Proofs.Generation.Outcomes

/-! The prompts of a run. The first is the base prompt, and each later one is the base prompt again
with at most the violations of the answer directly before it. -/

namespace Stagewise

theorem Prompt.withFeedback_eq (base : String) (violations : List Violation) :
    withFeedback base violations =
      base ++ "\nYour previous answer was rejected for these reasons:\n" ++
        String.join (violations.map fun v => "- " ++ v.message ++ "\n") ++
        "Return a corrected JSON object.\n" := by
  simp [withFeedback, feedback, lines, String.append_assoc, Function.comp_def]

namespace Answer

variable {limit : Duration} {eligible : List String} {answer : Answer Json} {e e' : AttemptError}

theorem Refused.unique (h : answer.Refused limit eligible e)
    (h' : answer.Refused limit eligible e') : e = e' :=
  Except.error.inj (h.document.symm.trans h'.document)

theorem Refused.not_accepted {d : Document} (h : answer.Refused limit eligible e) :
    ¬answer.Accepted eligible d := by
  intro haccepted
  cases h.document.symm.trans haccepted.document

end Answer

namespace Generator

/-- The prompt after an answer that was of no use. Only the violations of an answer that was
rejected are added, a line for each, and only when feedback is enabled. -/
inductive FollowsUp (g : Generator) (base : String) (eligible : List String)
    (answer : Answer Json) : String → Prop
  | repaired {violations : List Violation} (enabled : g.config.feedbackViolations = true)
      (rejected : answer.Refused g.config.attemptTimeout eligible (.rejected violations)) :
      FollowsUp g base eligible answer
        (base ++ "\nYour previous answer was rejected for these reasons:\n" ++
          String.join (violations.map fun v => "- " ++ v.message ++ "\n") ++
          "Return a corrected JSON object.\n")
  | disabled (disabled : g.config.feedbackViolations = false) :
      FollowsUp g base eligible answer base
  | failed {e : AttemptError} (refused : answer.Refused g.config.attemptTimeout eligible e)
      (other : ∀ violations, e ≠ .rejected violations) : FollowsUp g base eligible answer base

section

variable {g : Generator} {base : String} {eligible : List String} {answer : Answer Json}

theorem FollowsUp.eq_base {prompt : String} (h : g.FollowsUp base eligible answer prompt)
    (hdisabled : g.config.feedbackViolations = false) : prompt = base := by
  cases h with
  | repaired enabled => cases enabled.symm.trans hdisabled
  | disabled => rfl
  | failed => rfl

theorem FollowsUp.unique {a b : String} (ha : g.FollowsUp base eligible answer a)
    (hb : g.FollowsUp base eligible answer b) : a = b := by
  cases ha with
  | repaired enabled rejected =>
    cases hb with
    | repaired _ rejected' =>
      obtain rfl := AttemptError.rejected.inj (rejected.unique rejected')
      rfl
    | disabled disabled => cases enabled.symm.trans disabled
    | failed refused other => exact absurd (refused.unique rejected) (other _)
  | disabled disabled => exact (hb.eq_base disabled).symm
  | failed refused other =>
    cases hb with
    | repaired _ rejected => exact absurd (refused.unique rejected) (other _)
    | disabled => rfl
    | failed => rfl

theorem followsUp_nextPrompt {e : AttemptError}
    (h : answer.Refused g.config.attemptTimeout eligible e) :
    g.FollowsUp base eligible answer (nextPrompt g.config base (some e)) := by
  cases e with
  | rejected violations =>
    cases hfeedback : g.config.feedbackViolations with
    | true =>
      simp only [nextPrompt, hfeedback, if_true, Prompt.withFeedback_eq]
      exact .repaired hfeedback h
    | false =>
      simp only [nextPrompt, hfeedback, Bool.false_eq_true, if_false]
      exact .disabled hfeedback
  | _ => exact .failed h nofun

end

variable {σ : Type}

/-- The prompts that lead to these answers, until one is accepted or no attempt is left. -/
structure Prompts (g : Generator) (base : String) (eligible : List String)
    (answers : Nat → Answer Json) (prompts : List String) : Prop where
  made : ∀ k, k < prompts.length ↔ k < g.config.maxRetries.toNat ∧
    ∀ j < k, ∃ e, (answers j).Refused g.config.attemptTimeout eligible e
  first : ∀ prompt, prompts[0]? = some prompt → prompt = base
  next : ∀ k prompt, prompts[k + 1]? = some prompt → g.FollowsUp base eligible (answers k) prompt

section

variable {g : Generator} {base : String} {eligible : List String} {answers : Nat → Answer Json}

theorem prompts_attempts {n : Nat}
    (hmade : ∀ k, k < n ↔ k < g.config.maxRetries.toNat ∧
      ∀ j < k, ∃ e, (answers j).Refused g.config.attemptTimeout eligible e) :
    g.Prompts base eligible answers
      ((List.range n).map fun k => (g.attemptCall base eligible answers k).prompt) where
  made := by simpa using hmade
  first prompt hprompt := by
    obtain ⟨k, hk, rfl⟩ := Option.map_eq_some_iff.mp (List.getElem?_map.symm.trans hprompt)
    obtain ⟨-, rfl⟩ := List.getElem?_eq_some_iff.mp hk
    simp [attemptCall, lastError, nextPrompt]
  next k prompt hprompt := by
    obtain ⟨j, hj, rfl⟩ := Option.map_eq_some_iff.mp (List.getElem?_map.symm.trans hprompt)
    obtain ⟨hlt, rfl⟩ := List.getElem?_eq_some_iff.mp hj
    obtain ⟨e, he⟩ := ((hmade (k + 1)).mp (by simpa using hlt)).2 k (Nat.lt_succ_self k)
    simpa [attemptCall, lastError_succ he] using followsUp_nextPrompt he

theorem Prompts.eq_base {prompts : List String} (h : g.Prompts base eligible answers prompts)
    (hdisabled : g.config.feedbackViolations = false) : ∀ prompt ∈ prompts, prompt = base := by
  intro prompt hprompt
  obtain ⟨k, hk⟩ := List.mem_iff_getElem?.mp hprompt
  cases k with
  | zero => exact h.first prompt hk
  | succ k => exact (h.next k prompt hk).eq_base hdisabled

end

variable {g : Generator} {model : Model σ} {r : Request} {s : GenerationState σ}

/-- A run makes the calls of its attempts up to the one that ended it. -/
theorem exists_attempts (p : g.Playback model (g.basePrompt r) (g.eligible r) s.model)
    (hvalid : r.validate = .ok ()) (hmode : ¬g.InProse r) :
    ∃ n, ((g.generate model r).run s).2.calls =
        s.calls ++ (List.range n).map (g.attemptCall (g.basePrompt r) (g.eligible r) p.answers) ∧
      ∀ k, k < n ↔ k < g.config.maxRetries.toNat ∧
        ∀ j < k, ∃ e, (p.answers j).Refused g.config.attemptTimeout (g.eligible r) e := by
  obtain ⟨htext, heligible⟩ := not_or.mp hmode
  obtain ⟨⟨outcome, u⟩, hattempts⟩ : ∃ run, (g.attempts model (g.basePrompt r) (g.eligible r)
    g.config.maxRetries.toNat 0 .zero none).run s = run := ⟨_, rfl⟩
  obtain ⟨result, t, hrun⟩ : ∃ result t, (g.generate model r).run s = (.ok result, t) :=
    ⟨_, _, run_generate hvalid (Bool.eq_false_iff.mpr htext) heligible
      (run_generateWidgets hattempts)⟩
  obtain ⟨last, hend, rfl⟩ := p.endsIn_of_generate hrun
  rw [hrun, calls_recordMetrics]
  cases hend with
  | prose mode => exact absurd mode hmode
  | @accepted _ n d allowed accepted first =>
    refine ⟨n + 1, by rw [calls_persist]; rfl, fun k => ⟨fun hk => ?_, fun ⟨_, hk⟩ => ?_⟩⟩
    · exact ⟨by omega, fun j hj => first j (by omega)⟩
    · refine Nat.lt_of_not_le fun hlt => ?_
      obtain ⟨e, he⟩ := hk n hlt
      exact he.not_accepted accepted
  | refused _ all =>
    exact ⟨g.config.maxRetries.toNat, rfl, fun k =>
      ⟨fun hk => ⟨hk, fun j hj => all j (Nat.lt_trans hj hk)⟩, And.left⟩⟩

/-- Whatever happened before, the prompt of an attempt tells of the answer directly before it and of
nothing else. -/
theorem generate_prompts (g : Generator) (model : Model σ) (r : Request) (s : GenerationState σ)
    (p : g.Playback model (g.basePrompt r) (g.eligible r) s.model)
    (hvalid : r.validate = .ok ()) (hmode : ¬g.InProse r) :
    ∃ prompts, ((g.generate model r).run s).2.calls = s.calls ++ prompts.map (Call.mk .widget) ∧
      g.Prompts (g.basePrompt r) (g.eligible r) p.answers prompts ∧
      (∀ j k a b, p.answers j = p.answers k → prompts[j + 1]? = some a →
        prompts[k + 1]? = some b → a = b) ∧
      (g.config.feedbackViolations = false → ∀ prompt ∈ prompts, prompt = g.basePrompt r) := by
  obtain ⟨n, hcalls, hmade⟩ := exists_attempts p hvalid hmode
  have hprompts : g.Prompts (g.basePrompt r) (g.eligible r) p.answers _ := prompts_attempts hmade
  refine ⟨_, ?_, hprompts, fun j k a b hsame ha hb => ?_, hprompts.eq_base⟩
  · rw [hcalls, List.map_map]
    rfl
  · have hfollows := hprompts.next j a ha
    rw [hsame] at hfollows
    exact hfollows.unique (hprompts.next k b hb)

/-- An empty answer, and one that never came. Only the first is told of, and only once. -/
theorem generate_prompts_repaired :
    let catalog := (Catalog.empty.setStage .summary ["recap"]).addImplemented ["recap"]
    let g : Generator := ⟨catalog, { Config.standard with feedbackViolations := true }, none⟩
    let r : Request := .new "s" "moving" .summary
    let answers (n : Nat) : Answer Json := if n = 0 then .reply (.object []) none else .late
    let s : GenerationState Nat := ⟨0, .standard, [], []⟩
    let feedback := "\nYour previous answer was rejected for these reasons:\n- missing sessionId\n" ++
      "- missing stage\n- missing widgets array\nReturn a corrected JSON object.\n"
    r.validate = .ok () ∧ ¬g.InProse r ∧ ∃ prompts,
      ((g.generate (.playing answers) r).run s).2.calls = prompts.map (Call.mk .widget) ∧
      g.Prompts (g.basePrompt r) (g.eligible r) answers prompts ∧
      prompts = [g.basePrompt r, g.basePrompt r ++ feedback, g.basePrompt r] := by
  intro catalog g r answers s feedback
  have hvalid : r.validate = .ok () := Outcome.toOption_eq_some_iff.mp (by decide +kernel)
  have hmode : ¬g.InProse r := not_or.mpr ⟨Bool.false_ne_true, by decide +kernel⟩
  obtain ⟨prompts, hcalls, hprompts, -⟩ :=
    generate_prompts g (.playing answers) r s (.ofAnswers answers) hvalid hmode
  have hcall : ((g.generate (.playing answers) r).run s).2.calls.map Call.prompt =
      [g.basePrompt r, g.basePrompt r ++ feedback, g.basePrompt r] := by
    decide +kernel
  refine ⟨hvalid, hmode, prompts, hcalls, hprompts, ?_⟩
  rw [← hcall, hcalls]
  simp [s, Function.comp_def]

end Generator

end Stagewise
