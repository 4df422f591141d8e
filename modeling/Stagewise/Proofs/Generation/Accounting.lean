import Stagewise.Proofs.Generation.Provenance
import Stagewise.Proofs.Usage

/-! The books that generations keep. What a model reports in the calls that a generation makes of it
is what the result counts, and the result is entered once under the session of its request. A request
that cannot be used leaves everything as it was. -/

namespace Stagewise

/-- A call of a model and the tokens that were reported with its answer. -/
structure Exchange where
  call : Call
  reported : Option TokenUsage

/-- The calls of a model that take it from one state to another. -/
inductive Converses {σ : Type} (model : Model σ) : σ → List Exchange → σ → Prop
  | silent {s : σ} : Converses model s [] s
  | json {s t : σ} {exchanges : List Exchange} (prompt : String)
      (rest : Converses model (model.json prompt s).2 exchanges t) :
      Converses model s (⟨⟨.widget, prompt⟩, (model.json prompt s).1.usage?⟩ :: exchanges) t
  | text {s t : σ} {exchanges : List Exchange} (prompt : String)
      (rest : Converses model (model.text prompt s).2 exchanges t) :
      Converses model s (⟨⟨.text, prompt⟩, (model.text prompt s).1.usage?⟩ :: exchanges) t

namespace Generator

variable {σ : Type}

/-- What one part of a generation does before its measures are recorded: it talks to the model, and
leaves the metrics alone. -/
structure Talks (model : Model σ) (s : GenerationState σ) (exchanges : List Exchange)
    (t : GenerationState σ) : Prop where
  converses : Converses model s.model exchanges t.model
  calls : t.calls = s.calls ++ exchanges.map Exchange.call
  metrics : t.metrics = s.metrics

variable {model : Model σ}

theorem Talks.askJson {s t : GenerationState σ} {exchanges : List Exchange} {prompt : String}
    (h : Talks model ((Generator.askJson model prompt).run s).2 exchanges t) :
    Talks model s (⟨⟨.widget, prompt⟩, (model.json prompt s.model).1.usage?⟩ :: exchanges) t where
  converses := .json prompt h.converses
  calls := by
    rw [h.calls, run_askJson]
    simp
  metrics := h.metrics

theorem Talks.persist (g : Generator) (d : Document) (s : GenerationState σ) :
    Talks model s [] ((g.persist d).run s).2 := by
  rw [run_persist]
  exact ⟨.silent, (List.append_nil _).symm, rfl⟩

theorem talks_attempts (g : Generator) (base : String) (eligible : List String)
    (left done : Nat) (usage : TokenUsage) (last : Option AttemptError) (s : GenerationState σ) :
    ∃ exchanges,
      Talks model s exchanges ((g.attempts model base eligible left done usage last).run s).2 ∧
      ((g.attempts model base eligible left done usage last).run s).1.usage =
        (exchanges.map Exchange.reported).foldl addUsage usage := by
  induction left generalizing done usage last s with
  | zero => exact ⟨[], ⟨.silent, (List.append_nil _).symm, rfl⟩, rfl⟩
  | succ left ih =>
    have hask := run_askJson model (nextPrompt g.config base last) s
    rw [attempts, run_bind hask]
    cases (model.json (nextPrompt g.config base last) s.model).1.document
      g.config.attemptTimeout eligible with
    | ok d => exact ⟨_, .askJson (.persist g d _), rfl⟩
    | error e =>
      obtain ⟨exchanges, htalks, husage⟩ := ih (done + 1) _ (some e) _
      exact ⟨_, htalks.askJson, husage⟩

/-- What a generation for a request does to the books. -/
inductive Accounts (model : Model σ) (r : Request) (s : GenerationState σ) :
    Except RequestError GenerationResult → GenerationState σ → Prop
  | refused {e : RequestError} (invalid : r.validate = .error e) : Accounts model r s (.error e) s
  | entered {t : GenerationState σ} {result : GenerationResult} {metrics : GenerationMetrics}
      {exchanges : List Exchange} (valid : r.validate = .ok ())
      (converses : Converses model s.model exchanges t.model)
      (calls : t.calls = s.calls ++ exchanges.map Exchange.call)
      (measured : result.metrics = some metrics)
      (counts : metrics.Counts (exchanges.map Exchange.reported))
      (recorded : t.metrics = s.metrics.record r.sessionId
        ⟨result.mode, result.success, result.retryCount, metrics⟩) :
      Accounts model r s (.ok result) t

variable {g : Generator} {r : Request} {s : GenerationState σ}

/-- What was said before the record is all that was said. -/
theorem Talks.accounts {t : GenerationState σ} {exchanges : List Exchange}
    {result : GenerationResult} {usage : TokenUsage} {elapsedMs : Nat}
    (h : Talks model s exchanges t) (hvalid : r.validate = .ok ())
    (husage : usage = (exchanges.map Exchange.reported).foldl addUsage .zero)
    (hmeasured : result.metrics = some (.ofUsage usage elapsedMs)) :
    Accounts model r s (.ok result) ((recordMetrics r result).run t).2 := by
  subst husage
  have hrecorded := run_recordMetrics hmeasured t (r := r)
  refine .entered hvalid ?_ ?_ hmeasured (GenerationMetrics.counts_ofUsage _ elapsedMs) ?_
  · rw [hrecorded]
    exact h.converses
  · rw [hrecorded]
    exact h.calls
  · rw [hrecorded, ← h.metrics]

theorem metrics_resultOf (g : Generator) (outcome : AttemptsOutcome)
    (metrics : GenerationMetrics) : (g.resultOf outcome metrics).metrics = some metrics := by
  unfold resultOf
  split <;> rfl

theorem metrics_proseResult (g : Generator) (answer : Answer String)
    (metrics : GenerationMetrics) : (g.proseResult answer metrics).metrics = some metrics := by
  unfold proseResult
  split <;> rfl

theorem accounts_prose (hvalid : r.validate = .ok ()) (hmode : g.InProse r) :
    Accounts model r s ((g.generate model r).run s).1 ((g.generate model r).run s).2 := by
  obtain ⟨elapsedMs, hrun⟩ := run_generateText g model r s
  have htalks : Talks model s
      [⟨⟨.text, Prompt.text r⟩, (model.text (Prompt.text r) s.model).1.usage?⟩]
      (askedText model (Prompt.text r) s) := ⟨.text _ .silent, rfl, rfl⟩
  rw [run_generate_of_inProse hvalid hmode hrun]
  exact htalks.accounts hvalid rfl (metrics_proseResult g _ _)

theorem accounts_widgets (hvalid : r.validate = .ok ()) (hmode : ¬g.InProse r) :
    Accounts model r s ((g.generate model r).run s).1 ((g.generate model r).run s).2 := by
  obtain ⟨htext, heligible⟩ := not_or.mp hmode
  obtain ⟨exchanges, htalks, husage⟩ :=
    talks_attempts g (g.basePrompt r) (g.eligible r) g.config.maxRetries.toNat 0 .zero none s
  obtain ⟨⟨outcome, u⟩, hattempts⟩ : ∃ run, (g.attempts model (g.basePrompt r) (g.eligible r)
    g.config.maxRetries.toNat 0 .zero none).run s = run := ⟨_, rfl⟩
  rw [hattempts] at htalks husage
  rw [run_generate hvalid (Bool.eq_false_iff.mpr htext) heligible (run_generateWidgets hattempts)]
  exact htalks.accounts hvalid husage (metrics_resultOf g outcome _)

theorem accounts_generate (g : Generator) (model : Model σ) (r : Request)
    (s : GenerationState σ) :
    Accounts model r s ((g.generate model r).run s).1 ((g.generate model r).run s).2 := by
  cases hvalidate : r.validate with
  | error e =>
    have hrun : (g.generate model r).run s = (.error e, s) := by
      unfold generate
      rw [hvalidate]
      rfl
    rw [hrun]
    exact .refused hvalidate
  | ok _ =>
    by_cases hmode : g.InProse r
    · exact accounts_prose hvalidate hmode
    · exact accounts_widgets hvalidate hmode

/-- Generations one after another. -/
def generateAll (g : Generator) (model : Model σ) :
    List Request → Generation σ (List (Except RequestError GenerationResult))
  | [] => pure []
  | r :: requests => do
    let outcome ← g.generate model r
    let outcomes ← generateAll g model requests
    pure (outcome :: outcomes)

inductive AccountsAll (model : Model σ) : GenerationState σ → List Request →
    List (Except RequestError GenerationResult) → GenerationState σ → Prop
  | nil {s : GenerationState σ} : AccountsAll model s [] [] s
  | cons {s u t : GenerationState σ} {r : Request} {requests : List Request}
      {outcome : Except RequestError GenerationResult}
      {outcomes : List (Except RequestError GenerationResult)}
      (first : Accounts model r s outcome u) (rest : AccountsAll model u requests outcomes t) :
      AccountsAll model s (r :: requests) (outcome :: outcomes) t

theorem accountsAll_generateAll (g : Generator) (model : Model σ) (requests : List Request)
    (s : GenerationState σ) :
    AccountsAll model s requests ((g.generateAll model requests).run s).1
      ((g.generateAll model requests).run s).2 := by
  induction requests generalizing s with
  | nil => exact .nil
  | cons r requests ih =>
    have hfirst := accounts_generate g model r s
    have hrest := ih ((g.generate model r).run s).2
    exact .cons hfirst hrest

/-- What an outcome enters in the books, and under which session. -/
def entered? (r : Request) : Except RequestError GenerationResult → Option (String × MetricsRecord)
  | .error _ => none
  | .ok result => result.metrics.map fun metrics =>
    (r.sessionId, ⟨result.mode, result.success, result.retryCount, metrics⟩)

def entries : List Request → List (Except RequestError GenerationResult) →
    List (String × MetricsRecord)
  | r :: requests, outcome :: outcomes => (entered? r outcome).toList ++ entries requests outcomes
  | _, _ => []

def isValid (r : Request) : Bool :=
  r.validate.toOption.isSome

theorem Accounts.entered? {outcome : Except RequestError GenerationResult} {t : GenerationState σ}
    (h : Accounts model r s outcome t) :
    ((Generator.entered? r outcome).toList.map Prod.fst = if isValid r then [r.sessionId] else []) ∧
      t.metrics = (Generator.entered? r outcome).toList.foldl
        (fun store entry => store.record entry.1 entry.2) s.metrics := by
  cases h with
  | refused invalid => simp [Generator.entered?, isValid, invalid, Except.toOption]
  | entered valid _ _ measured _ recorded =>
    simp [Generator.entered?, isValid, valid, measured, recorded, Except.toOption]

theorem AccountsAll.entries {requests : List Request}
    {outcomes : List (Except RequestError GenerationResult)} {t : GenerationState σ}
    (h : AccountsAll model s requests outcomes t) :
    ((Generator.entries requests outcomes).map Prod.fst =
        (requests.filter isValid).map Request.sessionId) ∧
      t.metrics = (Generator.entries requests outcomes).foldl
        (fun store entry => store.record entry.1 entry.2) s.metrics := by
  induction h with
  | nil => exact ⟨rfl, rfl⟩
  | @cons _ _ _ r requests _ _ first _ ih =>
    obtain ⟨hnames, hstore⟩ := first.entered?
    constructor
    · rw [Generator.entries, List.map_append, hnames, ih.1]
      by_cases hvalid : isValid r = true
      · rw [if_pos hvalid, List.filter_cons_of_pos hvalid]
        rfl
      · rw [if_neg hvalid, List.filter_cons_of_neg hvalid]
        rfl
    · rw [Generator.entries, List.foldl_append, ← hstore]
      exact ih.2

/-- Generations one after another keep their books: each one counts what was reported to it, and the
metrics store has one entry more for each request that can be used, and none for any other. -/
theorem generateAll_accounts {σ : Type} (g : Generator) (model : Model σ)
    (requests : List Request) (s : GenerationState σ) :
    let run := (g.generateAll model requests).run s
    AccountsAll model s requests run.1 run.2 ∧
      (entries requests run.1).map Prod.fst = (requests.filter isValid).map Request.sessionId ∧
      run.2.metrics = (entries requests run.1).foldl
        (fun store entry => store.record entry.1 entry.2) s.metrics ∧
      ∀ (part : TokenUsage → UInt64) (reported reported' : List (Option TokenUsage)),
        reported.Perm reported' → reportedTokens part reported = reportedTokens part reported' := by
  intro run
  have haccounts := accountsAll_generateAll g model requests s
  obtain ⟨hnames, hstore⟩ := haccounts.entries
  exact ⟨haccounts, hnames, hstore, fun part _ _ hperm => reportedTokens_perm part hperm⟩

/-- A request that cannot be used, and one with an answer that is no object, one that fails and one
that is taken. Both answers that came count, up to the cap. -/
theorem generateAll_capped :
    let catalog := (Catalog.empty.setStage .summary ["recap"]).addImplemented ["recap"]
    let g : Generator := ⟨catalog, .standard, none⟩
    let requests : List Request := [.new " " "moving" .summary, .new "s" "moving" .summary]
    let payload : Json := .ofFields
      [("sessionId", .text "s"), ("stage", .text "summary"),
        ("widgets", .array [.ofFields [("component", .text "recap")]])]
    let model := Model.playing fun
      | 0 => .reply .null (some ⟨10, 4⟩)
      | 1 => .failure .emptyResponse
      | _ => .reply payload (some ⟨18446744073709551610, 1⟩)
    let s : GenerationState Nat := ⟨0, .standard, [], []⟩
    let run := (g.generateAll model requests).run s
    let metrics : GenerationMetrics := ⟨18446744073709551615, 5, 18446744073709551615, 0⟩
    AccountsAll model s requests run.1 run.2 ∧ run.2.calls.length = 3 ∧
      entries requests run.1 = [("s", ⟨.widget, true, 2, metrics⟩)] ∧
      run.2.metrics.session "s" = [⟨.widget, true, 2, metrics⟩] ∧
      reportedTokens TokenUsage.responseTokens [some ⟨10, 4⟩, none, some ⟨18446744073709551610, 1⟩] =
        reportedTokens TokenUsage.responseTokens
          [some ⟨18446744073709551610, 1⟩, some ⟨10, 4⟩, none] := by
  intro catalog g requests payload model s run metrics
  obtain ⟨haccounts, -, hstore, hperm⟩ := generateAll_accounts g model requests s
  have hentries : entries requests run.1 = [("s", ⟨.widget, true, 2, metrics⟩)] := by
    decide +kernel
  have hsession : run.2.metrics.session "s" = [⟨.widget, true, 2, metrics⟩] := by
    rw [hstore, hentries]
    decide +kernel
  exact ⟨haccounts, by decide +kernel, hentries, hsession, hperm _ _ _ (by decide)⟩

end Generator

end Stagewise
