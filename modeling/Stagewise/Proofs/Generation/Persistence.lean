import Stagewise.Proofs.Generation.Accounting

/-! What a store of documents has to do with a generation. It is handed the document of a success,
once, and what it answers goes nowhere: with another store, or with none, the model is asked the
same, the result is the same and the same is recorded. Only the time that went by may differ, since
a store may take some of it. -/

namespace Stagewise

def GenerationMetrics.untimed (m : GenerationMetrics) : GenerationMetrics :=
  { m with processingTimeMs := 0 }

/-- The result without the time that it took. -/
def GenerationResult.untimed (result : GenerationResult) : GenerationResult :=
  { result with metrics := result.metrics.map GenerationMetrics.untimed }

def MetricsRecord.untimed (r : MetricsRecord) : MetricsRecord :=
  { r with metrics := r.metrics.untimed }

namespace Generator

variable {σ : Type}

theorem exists_run_recordMetrics (r : Request) (result : GenerationResult)
    (s : GenerationState σ) :
    ∃ metrics, ((recordMetrics r result).run s).2 = { s with metrics := metrics } := by
  unfold recordMetrics
  split
  · exact ⟨s.metrics, rfl⟩
  · exact ⟨_, rfl⟩

/-- Two parts of generations, from the first states to the second, that did the same with the
model. -/
structure Alongside (s s' t t' : GenerationState σ) : Prop where
  model : t'.model = t.model
  calls : ∃ calls, t.calls = s.calls ++ calls ∧ t'.calls = s'.calls ++ calls

namespace Alongside

variable {s s' t t' : GenerationState σ}

theorem refl (h : s'.model = s.model) : Alongside s s' s s' where
  model := h
  calls := ⟨[], (List.append_nil _).symm, (List.append_nil _).symm⟩

/-- A call that both parts begin with. -/
theorem called {call : Call} {next : σ}
    (h : Alongside { s with model := next, calls := s.calls ++ [call] }
      { s' with model := next, calls := s'.calls ++ [call] } t t') : Alongside s s' t t' where
  model := h.model
  calls := by
    obtain ⟨calls, hcalls, hcalls'⟩ := h.calls
    exact ⟨call :: calls, by rw [hcalls]; simp, by rw [hcalls']; simp⟩

theorem askedText (model : Model σ) (clock : σ → Nat) (prompt : String) (h : s'.model = s.model) :
    Alongside s s' (Generator.askedText model prompt s)
      (Generator.askedText { model with clock := clock } prompt s') where
  model := congrArg (fun u => (model.text prompt u).2) h
  calls := ⟨[⟨.text, prompt⟩], rfl, rfl⟩

/-- Whatever the stores are and answer. -/
theorem persist (g g' : Generator) (d : Document) (h : s'.model = s.model) :
    Alongside s s' ((g.persist d).run s).2 ((g'.persist d).run s').2 := by
  rw [run_persist, run_persist]
  exact ⟨h, (refl h).calls⟩

theorem recordMetrics (r : Request) (result result' : GenerationResult)
    (h : Alongside s s' t t') :
    Alongside s s' ((Generator.recordMetrics r result).run t).2
      ((Generator.recordMetrics r result').run t').2 := by
  obtain ⟨_, hrun⟩ := exists_run_recordMetrics r result t
  obtain ⟨_, hrun'⟩ := exists_run_recordMetrics r result' t'
  rw [hrun, hrun']
  exact ⟨h.model, h.calls⟩

end Alongside

section

variable (g : Generator) (store : Option DocumentStore) (model : Model σ) (clock : σ → Nat)

theorem alongside_attempts (base : String) (eligible : List String) (left done : Nat)
    (usage : TokenUsage) (last : Option AttemptError) {s s' : GenerationState σ}
    (h : s'.model = s.model) :
    let g' : Generator := { g with store := store }
    let model' : Model σ := { model with clock := clock }
    let run := (g.attempts model base eligible left done usage last).run s
    let run' := (g'.attempts model' base eligible left done usage last).run s'
    run'.1 = run.1 ∧ Alongside s s' run.2 run'.2 := by
  intro g' model'
  induction left generalizing done usage last s s' with
  | zero => exact ⟨rfl, .refl h⟩
  | succ left ih =>
    have hask := run_askJson model (nextPrompt g.config base last) s
    have hask' := run_askJson model' (nextPrompt g.config base last) s'
    rw [h] at hask'
    rw [attempts, attempts, run_bind hask, run_bind hask']
    dsimp only
    cases (model.json (nextPrompt g.config base last) s.model).1.document
      g.config.attemptTimeout eligible with
    | ok d => exact ⟨rfl, .called (.persist g g' d rfl)⟩
    | error e =>
      exact (ih (done + 1) _ (some e) (by rfl)).imp_right .called

theorem untimed_resultOf (outcome : AttemptsOutcome) (usage : TokenUsage)
    (elapsedMs elapsedMs' : Nat) :
    let g' : Generator := { g with store := store }
    (g'.resultOf outcome (.ofUsage usage elapsedMs')).untimed =
      (g.resultOf outcome (.ofUsage usage elapsedMs)).untimed := by
  obtain ⟨document, _⟩ := outcome
  cases document <;> rfl

theorem untimed_proseResult (answer : Answer String) (usage : TokenUsage)
    (elapsedMs elapsedMs' : Nat) :
    let g' : Generator := { g with store := store }
    (g'.proseResult answer (.ofUsage usage elapsedMs')).untimed =
      (g.proseResult answer (.ofUsage usage elapsedMs)).untimed := by
  unfold proseResult
  dsimp only
  split <;> rfl

end

/-- Two generations for a request, each from its own state, that nobody can tell apart but by the
time they took: they come to the same, they asked the model for the same, and what they recorded is
the same. -/
structure Alike (r : Request) (s s' : GenerationState σ)
    (run run' : Except RequestError GenerationResult × GenerationState σ) : Prop where
  outcome : run'.1.map GenerationResult.untimed = run.1.map GenerationResult.untimed
  alongside : Alongside s s' run.2 run'.2
  entry : (entered? r run'.1).map (Prod.map id MetricsRecord.untimed) =
    (entered? r run.1).map (Prod.map id MetricsRecord.untimed)
  recorded : run.2.metrics = (entered? r run.1).toList.foldl
    (fun metrics entry => metrics.record entry.1 entry.2) s.metrics
  recorded' : run'.2.metrics = (entered? r run'.1).toList.foldl
    (fun metrics entry => metrics.record entry.1 entry.2) s'.metrics

theorem entered?_untimed (r : Request) (outcome : Except RequestError GenerationResult) :
    entered? r (outcome.map GenerationResult.untimed) =
      (entered? r outcome).map (Prod.map id MetricsRecord.untimed) := by
  cases outcome with
  | error e => rfl
  | ok result => cases hmetrics : result.metrics <;>
    simp [entered?, Except.map, GenerationResult.untimed, MetricsRecord.untimed, hmetrics]

section

variable (g : Generator) (store : Option DocumentStore) (model : Model σ) (clock : σ → Nat)

theorem alongside_generate (r : Request) {s s' : GenerationState σ} (h : s'.model = s.model) :
    let g' : Generator := { g with store := store }
    let model' : Model σ := { model with clock := clock }
    let run := (g.generate model r).run s
    let run' := (g'.generate model' r).run s'
    run'.1.map GenerationResult.untimed = run.1.map GenerationResult.untimed ∧
      Alongside s s' run.2 run'.2 := by
  intro g' model'
  cases hvalid : r.validate with
  | error e =>
    unfold generate
    rw [hvalid]
    exact ⟨rfl, .refl h⟩
  | ok _ =>
    by_cases hmode : g.InProse r
    · obtain ⟨elapsedMs, hrun⟩ := run_generateText g model r s
      obtain ⟨elapsedMs', hrun'⟩ := run_generateText g' model' r s'
      rw [h] at hrun'
      rw [run_generate_of_inProse hvalid hmode hrun,
        run_generate_of_inProse (g := g') hvalid hmode hrun']
      refine ⟨congrArg Except.ok (untimed_proseResult g store _ _ _ _), ?_⟩
      exact .recordMetrics _ _ _ (.askedText model clock _ h)
    · obtain ⟨htext, heligible⟩ := not_or.mp hmode
      obtain ⟨houtcome, halong⟩ := alongside_attempts g store model clock (g.basePrompt r)
        (g.eligible r) g.config.maxRetries.toNat 0 .zero none h
      obtain ⟨⟨outcome, t⟩, hrun⟩ : ∃ run, (g.attempts model (g.basePrompt r) (g.eligible r)
        g.config.maxRetries.toNat 0 .zero none).run s = run := ⟨_, rfl⟩
      obtain ⟨⟨outcome', t'⟩, hrun'⟩ : ∃ run, (g'.attempts model' (g.basePrompt r) (g.eligible r)
        g.config.maxRetries.toNat 0 .zero none).run s' = run := ⟨_, rfl⟩
      rw [hrun, hrun'] at houtcome halong
      obtain rfl : outcome' = outcome := houtcome
      rw [run_generate hvalid (Bool.eq_false_iff.mpr htext) heligible (run_generateWidgets hrun),
        run_generate (g := g') hvalid (Bool.eq_false_iff.mpr htext) heligible
          (run_generateWidgets hrun')]
      exact ⟨congrArg Except.ok (untimed_resultOf g store _ _ _ _),
        .recordMetrics _ _ _ halong⟩

end

theorem alike_generate (g : Generator) (store : Option DocumentStore) (model : Model σ)
    (clock : σ → Nat) (r : Request) {s s' : GenerationState σ} (h : s'.model = s.model) :
    let g' : Generator := { g with store := store }
    let model' : Model σ := { model with clock := clock }
    Alike r s s' ((g.generate model r).run s) ((g'.generate model' r).run s') := by
  intro g' model'
  obtain ⟨houtcome, halong⟩ := alongside_generate g store model clock r h
  exact {
    outcome := houtcome
    alongside := halong
    entry := by rw [← entered?_untimed, houtcome, entered?_untimed]
    recorded := (accounts_generate g model r s).entered?.2
    recorded' := (accounts_generate g' model' r s').entered?.2 }

/-- What a store is handed in a generation that came to the given, and what it answers: the document
of a widget success, once. -/
inductive Saves (store : Option DocumentStore) (saved : List (Document × Except StoreError Unit)) :
    Except RequestError GenerationResult → List (Document × Except StoreError Unit) → Prop
  | once {there : DocumentStore} {result : GenerationResult} {d : Document}
      (given : store = some there) (mode : result.mode = .widget) (success : result.success = true)
      (document : result.uiSpec = some d) :
      Saves store saved (.ok result) (saved ++ [(d, there.save saved.length d)])
  | never {outcome : Except RequestError GenerationResult}
      (other : store = none ∨ ∀ result, outcome = .ok result → result.mode = .widget →
        result.success = false) :
      Saves store saved outcome saved

theorem saves_generate (g : Generator) (model : Model σ) (r : Request) (s : GenerationState σ) :
    Saves g.store s.saved ((g.generate model r).run s).1 ((g.generate model r).run s).2.saved := by
  have haccounts := accounts_generate g model r s
  obtain ⟨⟨outcome, t⟩, hrun⟩ : ∃ run, (g.generate model r).run s = run := ⟨_, rfl⟩
  rw [hrun] at haccounts ⊢
  cases haccounts with
  | refused =>
    refine .never (.inr ?_)
    rintro _ ⟨⟩
  | @entered _ result =>
    obtain ⟨u, hend, rfl⟩ := (Playback.ofModel g model (g.basePrompt r) (g.eligible r)
      s.model).endsIn_of_generate hrun
    obtain ⟨_, hrecorded⟩ := exists_run_recordMetrics r result u
    rw [hrecorded]
    cases hend with
    | prose _ metrics =>
      obtain ⟨htext, -⟩ := g.proseResult_tells (model.text (Prompt.text r) s.model).1 metrics
      refine .never (.inr ?_)
      rintro _ ⟨⟩ hwidget
      cases htext.symm.trans hwidget
    | accepted =>
      rw [run_persist]
      cases hstore : g.store with
      | none =>
        rw [Option.map_none, Option.toList_none, List.append_nil]
        exact .never (.inl rfl)
      | some there => exact .once rfl rfl rfl rfl
    | refused =>
      refine .never (.inr ?_)
      rintro _ ⟨⟩ -
      rfl

/-- Whatever store there is and whatever it answers, a generation comes to the same, makes the same
calls and records the same, but for the time; and the store is handed what was accepted, when a
document was, and nothing else. -/
theorem generate_ignores_store {σ : Type} (g : Generator) (store : Option DocumentStore)
    (model : Model σ) (clock : σ → Nat) (r : Request) (s s' : GenerationState σ)
    (hmodel : s'.model = s.model) :
    let g' : Generator := { g with store := store }
    let run := (g.generate model r).run s
    let run' := (g'.generate { model with clock := clock } r).run s'
    Alike r s s' run run' ∧ Saves g.store s.saved run.1 run.2.saved ∧
      Saves store s'.saved run'.1 run'.2.saved := by
  intro g' run run'
  exact ⟨alike_generate g store model clock r hmodel, saves_generate g model r s,
    saves_generate g' _ r s'⟩

/-- An answer that is refused, and then one that is taken. The store that fails is handed the one
document, and but for the time what is recorded with it is what is recorded with no store. -/
theorem generate_ignores_failing_store :
    let catalog := (Catalog.empty.setStage .summary ["recap"]).addImplemented ["recap"]
    let e : StoreError := .unavailable "down"
    let g : Generator := ⟨catalog, .standard, some (.failing e)⟩
    let r : Request := .new "s" "moving" .summary
    let payload : Json := .ofFields
      [("sessionId", .text "s"), ("stage", .text "summary"),
        ("widgets", .array [.ofFields [("component", .text "recap")]])]
    let model := Model.playing fun n => if n = 0 then .late else .reply payload none
    let s : GenerationState Nat := ⟨0, .standard, [], []⟩
    let g' : Generator := { g with store := none }
    let run := (g.generate model r).run s
    let run' := (g'.generate { model with clock := fun n => 7 * n } r).run s
    Alike r s s run run' ∧
      (∃ result d, run.1 = .ok result ∧ result.retryCount = 1 ∧ result.uiSpec = some d ∧
        run.2.saved = [(d, .error e)]) ∧
      run'.2.saved = [] ∧ run'.1 ≠ run.1 ∧ run.2.calls.length = 2 ∧
      run.2.metrics.session "s" = [⟨.widget, true, 1, ⟨0, 0, 0, 0⟩⟩] ∧
      run'.2.metrics.session "s" = [⟨.widget, true, 1, ⟨0, 0, 0, 14⟩⟩] := by
  intro catalog e g r payload model s g' run run'
  obtain ⟨halike, hsaves, hsaves'⟩ :=
    generate_ignores_store g none model (fun n => 7 * n) r s s rfl
  have hparts : ((g.generate model r).run s).1.toOption.map
      (fun result => (result.mode, result.success, result.retryCount)) =
        some (.widget, true, 1) := by
    decide +kernel
  obtain ⟨result, hrun, hparts⟩ := exists_result_of_run hparts
  obtain ⟨hmode, hparts⟩ := Prod.mk.inj hparts
  obtain ⟨hsuccess, hretries⟩ := Prod.mk.inj hparts
  have houtcome : run.1 = .ok result := congrArg Prod.fst hrun
  have htimes : run'.1.toOption.bind GenerationResult.metrics ≠
      run.1.toOption.bind GenerationResult.metrics := by
    decide +kernel
  have hentry : entered? r run.1 = some ("s", ⟨.widget, true, 1, ⟨0, 0, 0, 0⟩⟩) := by
    decide +kernel
  have hentry' : entered? r run'.1 = some ("s", ⟨.widget, true, 1, ⟨0, 0, 0, 14⟩⟩) := by
    decide +kernel
  have hsession : run.2.metrics.session "s" = [⟨.widget, true, 1, ⟨0, 0, 0, 0⟩⟩] := by
    rw [halike.recorded, hentry]
    decide +kernel
  have hsession' : run'.2.metrics.session "s" = [⟨.widget, true, 1, ⟨0, 0, 0, 14⟩⟩] := by
    rw [halike.recorded', hentry']
    decide +kernel
  refine ⟨halike, ?_, ?_, fun hsame => htimes (by rw [hsame]), by decide +kernel, hsession,
    hsession'⟩
  · rw [houtcome] at hsaves
    generalize run.2.saved = saved at hsaves
    cases hsaves with
    | @once there _ d given _ _ document =>
      obtain rfl : DocumentStore.failing e = there := Option.some.inj given
      exact ⟨result, d, houtcome, hretries, document, rfl⟩
    | never other =>
      obtain hnone | hfailed := other
      · cases hnone
      · cases hsuccess.symm.trans (hfailed result rfl hmode)
  · generalize run'.1 = outcome, run'.2.saved = saved at hsaves'
    cases hsaves' with
    | once given => cases given
    | never => rfl

end Generator

end Stagewise
