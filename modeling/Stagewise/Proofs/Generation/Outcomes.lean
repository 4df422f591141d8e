import Stagewise.Proofs.Generation.Retry

/-! All that a generation can come to. It is answered in prose by one call, or the first document
that is accepted ends its attempts, or each of them is refused. -/

namespace Stagewise

namespace Answer

theorem Accepted.exists_reply {eligible : List String} {answer : Answer Json} {d : Document}
    (h : answer.Accepted eligible d) :
    ∃ payload usage, answer = .reply payload usage ∧
      Document.accept (some eligible) payload = .ok d := by
  cases h with
  | reply _ accepted => exact ⟨_, _, rfl, accepted⟩

theorem first_accepted_or_refused (deadline : Duration) (eligible : List String)
    (answers : Nat → Answer Json) (limit : Nat) :
    (∃ n d, n < limit ∧ (answers n).Accepted eligible d ∧
      ∀ j < n, ∃ e, (answers j).Refused deadline eligible e) ∨
    ∀ j < limit, ∃ e, (answers j).Refused deadline eligible e := by
  induction limit with
  | zero => exact .inr fun j hj => absurd hj (Nat.not_lt_zero j)
  | succ limit ih =>
    rcases ih with ⟨n, d, hn, hd, hfirst⟩ | hrefused
    · exact .inl ⟨n, d, Nat.lt_succ_of_lt hn, hd, hfirst⟩
    · rcases accepted_or_refused deadline eligible (answers limit) with ⟨d, hd⟩ | hlast
      · exact .inl ⟨limit, d, Nat.lt_succ_self limit, hd, hrefused⟩
      · refine .inr fun j hj => ?_
        rcases Nat.lt_succ_iff_lt_or_eq.mp hj with hlt | rfl
        · exact hrefused j hlt
        · exact hlast

end Answer

namespace Generator

variable {σ : Type}

/-- The request asks for prose, or has no widgets to use. -/
def InProse (g : Generator) (r : Request) : Prop :=
  r.options.textOnlyMode = true ∨ g.eligible r = []

def proseResult (g : Generator) (answer : Answer String) (metrics : GenerationMetrics) :
    GenerationResult :=
  match answer.summary g.config.attemptTimeout with
  | .ok summary => .ofSummary summary metrics
  | .error e => .failure .text 0 e.message metrics

/-- The state after a model was asked for prose. -/
def askedText (model : Model σ) (prompt : String) (s : GenerationState σ) : GenerationState σ :=
  { s with
    model := (model.text prompt s.model).2
    calls := s.calls ++ [⟨.text, prompt⟩] }

theorem run_askText (model : Model σ) (prompt : String) (s : GenerationState σ) :
    (askText model prompt).run s = ((model.text prompt s.model).1, askedText model prompt s) :=
  rfl

theorem run_generateText (g : Generator) (model : Model σ) (r : Request) (s : GenerationState σ) :
    ∃ elapsedMs, (g.generateText model r).run s =
      (g.proseResult (model.text (Prompt.text r) s.model).1
          (.ofUsage (addUsage .zero (model.text (Prompt.text r) s.model).1.usage?) elapsedMs),
        askedText model (Prompt.text r) s) := by
  have hstart : (get : Generation σ (GenerationState σ)).run s = (s, s) := rfl
  unfold generateText proseResult
  rw [run_bind hstart, run_bind (run_askText model (Prompt.text r) s)]
  cases (model.text (Prompt.text r) s.model).1.summary g.config.attemptTimeout with
  | ok summary => exact ⟨_, rfl⟩
  | error e => exact ⟨_, rfl⟩

variable {g : Generator} {model : Model σ} {r : Request}

theorem run_generate_of_inProse (hvalid : r.validate = .ok ()) (hmode : g.InProse r)
    {s t : GenerationState σ} {result : GenerationResult}
    (h : (g.generateText model r).run s = (result, t)) :
    (g.generate model r).run s = (.ok result, ((recordMetrics r result).run t).2) := by
  have htext : (r.options.textOnlyMode || (g.eligible r).isEmpty) = true := by
    simpa [InProse] using hmode
  unfold generate
  simp only [hvalid, htext, if_true]
  rw [run_bind h]
  rfl

/-- A run of which a part of the result is known. -/
theorem exists_result_of_run {α : Type} {part : GenerationResult → α} {a : α}
    {s : GenerationState σ}
    (h : ((g.generate model r).run s).1.toOption.map part = some a) :
    ∃ result, (g.generate model r).run s = (.ok result, ((g.generate model r).run s).2) ∧
      part result = a := by
  obtain ⟨result, hresult, hpart⟩ := Option.map_eq_some_iff.mp h
  exact ⟨result, Prod.ext (Outcome.toOption_eq_some_iff.mp hresult) rfl, hpart⟩

theorem toNat_ofNat_of_allowed {n : Nat} {limit : UInt32} (h : n < limit.toNat) :
    (UInt32.ofNat n).toNat = n :=
  UInt32.toNat_ofNat_of_lt' (Nat.lt_trans h limit.toNat_lt)

namespace Playback

/-- How a generation ends, and the state before its measures are recorded. -/
inductive EndsIn (r : Request) (s : GenerationState σ)
    (p : g.Playback model (g.basePrompt r) (g.eligible r) s.model) :
    GenerationResult → GenerationState σ → Prop
  | prose (mode : g.InProse r) (metrics : GenerationMetrics) :
      EndsIn r s p (g.proseResult (model.text (Prompt.text r) s.model).1 metrics)
        (askedText model (Prompt.text r) s)
  | accepted (mode : ¬g.InProse r) {n : Nat} {d : Document}
      (allowed : n < g.config.maxRetries.toNat)
      (accepted : (p.answers n).Accepted (g.eligible r) d)
      (first : ∀ j < n, ∃ e,
        (p.answers j).Refused g.config.attemptTimeout (g.eligible r) e)
      (metrics : GenerationMetrics) :
      EndsIn r s p (.ofDocument d (UInt32.ofNat n) metrics)
        ((g.persist d).run (p.tried s (n + 1))).2
  | refused (mode : ¬g.InProse r)
      (all : ∀ j < g.config.maxRetries.toNat, ∃ e,
        (p.answers j).Refused g.config.attemptTimeout (g.eligible r) e)
      (metrics : GenerationMetrics) :
      EndsIn r s p
        (.failure .widget g.config.maxRetries
          (failureText (g.lastError (g.eligible r) p.answers g.config.maxRetries.toNat)) metrics)
        (p.tried s g.config.maxRetries.toNat)

theorem validate_of_generate {s t : GenerationState σ} {result : GenerationResult}
    (h : (g.generate model r).run s = (.ok result, t)) : r.validate = .ok () := by
  unfold generate at h
  split at h
  · cases h
  · assumption

theorem endsIn_of_generate {s t : GenerationState σ} {result : GenerationResult}
    (p : g.Playback model (g.basePrompt r) (g.eligible r) s.model)
    (h : (g.generate model r).run s = (.ok result, t)) :
    ∃ u, p.EndsIn r s result u ∧ t = ((recordMetrics r result).run u).2 := by
  have hvalid := validate_of_generate h
  have hends {result' : GenerationResult} {u : GenerationState σ}
      (hrun : (g.generate model r).run s = (.ok result', ((recordMetrics r result').run u).2))
      (hend : p.EndsIn r s result' u) :
      ∃ u, p.EndsIn r s result u ∧ t = ((recordMetrics r result).run u).2 := by
    obtain ⟨hresult, rfl⟩ := Prod.mk.inj (h.symm.trans hrun)
    obtain rfl := Except.ok.inj hresult
    exact ⟨u, hend, rfl⟩
  by_cases hmode : g.InProse r
  · obtain ⟨elapsedMs, hrun⟩ := run_generateText g model r s
    exact hends (run_generate_of_inProse hvalid hmode hrun) (.prose hmode _)
  · obtain ⟨htext, heligible⟩ := not_or.mp hmode
    have hwidgets {outcome : AttemptsOutcome} {u : GenerationState σ}
        (hrun : (g.attempts model (g.basePrompt r) (g.eligible r) g.config.maxRetries.toNat 0 .zero
          none).run s = (outcome, u)) :=
      run_generate hvalid (Bool.eq_false_iff.mpr htext) heligible (run_generateWidgets hrun)
    rcases Answer.first_accepted_or_refused g.config.attemptTimeout (g.eligible r) p.answers
      g.config.maxRetries.toNat with ⟨n, d, hn, hd, hfirst⟩ | hall
    · exact hends (hwidgets (p.run_accepted hn hd hfirst)) (.accepted hmode hn hd hfirst _)
    · exact hends (hwidgets (p.run_refused hall)) (.refused hmode hall _)

end Playback

end Generator

end Stagewise
