import Stagewise.Proofs.Generation.Result

/-! Where a document comes from. It is the one of the last answer, with the session and the stage
that this names; only its components are held against the request. It is stored as it is, while the
measures are recorded under the session of the request. -/

namespace Stagewise

namespace Generator

variable {σ : Type}

theorem run_recordMetrics {r : Request} {result : GenerationResult} {metrics : GenerationMetrics}
    (h : result.metrics = some metrics) (s : GenerationState σ) :
    let entry : MetricsRecord := ⟨result.mode, result.success, result.retryCount, metrics⟩
    ((recordMetrics r result).run s).2 =
      { s with metrics := s.metrics.record r.sessionId entry } := by
  unfold recordMetrics
  rw [h]
  rfl

theorem run_persist (g : Generator) (d : Document) (s : GenerationState σ) :
    ((g.persist d).run s).2 =
      { s with saved := s.saved ++
        (g.store.map fun store => (d, store.save s.saved.length d)).toList } := by
  unfold persist
  cases g.store with
  | none => simp; rfl
  | some store => rfl

/-- A widget success is the document of the answer it was taken from. Nothing holds that answer to
the session and the stage of the request. -/
theorem generate_document_carries (g : Generator) (model : Model σ) (r : Request)
    (s t : GenerationState σ) (result : GenerationResult)
    (p : g.Playback model (g.basePrompt r) (g.eligible r) s.model)
    (h : (g.generate model r).run s = (.ok result, t)) (hmode : result.mode = .widget)
    (hsuccess : result.success = true) :
    ∃ d payload usage metrics, result.uiSpec = some d ∧ result.metrics = some metrics ∧
      p.answers result.retryCount.toNat = .reply payload usage ∧ d.Carries payload ∧
      (d.sessionId = r.sessionId ↔ payload.field? "sessionId" = some (.text r.sessionId)) ∧
      (d.stage = r.stage ↔ payload.field? "stage" = some (.text r.stage.name)) ∧
      (∀ w ∈ d.widgets, w.component ∈ g.eligible r ∧ (d.stage = r.stage →
        w.component ∈ g.catalog.eligible d.stage r.options.restrictToImplemented)) ∧
      t.saved = s.saved ++
        (g.store.map fun store => (d, store.save s.saved.length d)).toList ∧
      t.metrics = s.metrics.record r.sessionId ⟨.widget, true, result.retryCount, metrics⟩ := by
  obtain ⟨u, hend, rfl⟩ := p.endsIn_of_generate h
  cases hend with
  | prose _ metrics =>
    obtain ⟨htext, -⟩ := g.proseResult_tells (model.text (Prompt.text r) s.model).1 metrics
    cases htext.symm.trans hmode
  | @accepted _ n d hallowed haccepted _ metrics =>
    obtain ⟨payload, usage, hanswer, haccept⟩ := haccepted.exists_reply
    have hcarries := Document.carries_of_accept haccept
    have hlast : p.answers (UInt32.ofNat n).toNat = .reply payload usage := by
      rw [toNat_ofNat_of_allowed hallowed, hanswer]
    refine ⟨d, payload, usage, metrics, rfl, rfl, hlast, hcarries, hcarries.sessionId_iff,
      hcarries.stage_iff, fun w hw => ?_, ?_, ?_⟩
    · have hmem := (Document.widgets_of_accept haccept).2 w hw _ rfl
      exact ⟨hmem, fun hstage => hstage ▸ hmem⟩
    · rw [run_recordMetrics rfl, run_persist]
      rfl
    · rw [run_recordMetrics rfl, run_persist]
      rfl
  | refused _ _ metrics => cases hsuccess

/-- A reply that names the session and the stage that it was asked for. -/
theorem generate_own_session :
    let catalog := (Catalog.empty.setStage .summary ["recap"]).addImplemented ["recap"]
    let g : Generator := ⟨catalog, .standard, some .accepting⟩
    let r : Request := .new "s" "moving" .summary
    let payload : Json := .ofFields
      [("sessionId", .text "s"), ("stage", .text "summary"),
        ("widgets", .array [.ofFields [("component", .text "recap")]])]
    let model := Model.playing fun _ => .reply payload none
    let s : GenerationState Nat := ⟨0, .standard, [], []⟩
    ∃ result t d, (g.generate model r).run s = (.ok result, t) ∧ result.mode = .widget ∧
      result.success = true ∧ result.uiSpec = some d ∧ d.sessionId = r.sessionId ∧
      d.stage = r.stage ∧ t.saved = [(d, .ok ())] := by
  intro catalog g r payload model s
  have hparts : ((g.generate model r).run s).1.toOption.map
      (fun result => (result.mode, result.success)) = some (.widget, true) := by
    decide +kernel
  obtain ⟨result, hrun, hparts⟩ := exists_result_of_run hparts
  obtain ⟨hmode, hsuccess⟩ := Prod.mk.inj hparts
  obtain ⟨d, payload', _, _, hd, -, hanswer, -, hsession, hstage, -, hsaved, -⟩ :=
    generate_document_carries g model r s _ result (.ofAnswers _) hrun hmode hsuccess
  obtain ⟨rfl, -⟩ := Answer.reply.inj hanswer
  exact ⟨result, _, d, hrun, hmode, hsuccess, hd, hsession.mpr (by decide +kernel),
    hstage.mpr (by decide +kernel), hsaved⟩

/-- A reply that names another session and another stage is taken all the same. It is stored under
the one session and recorded under the other. -/
theorem generate_other_session :
    let catalog := (Catalog.empty.setStage .summary ["recap"]).addImplemented ["recap"]
    let g : Generator := ⟨catalog, .standard, some .accepting⟩
    let r : Request := .new "s" "moving" .summary
    let payload : Json := .ofFields
      [("sessionId", .text "other"), ("stage", .text "diverge"),
        ("widgets", .array [.ofFields [("component", .text "recap")]])]
    let model := Model.playing fun _ => .reply payload none
    let s : GenerationState Nat := ⟨0, .standard, [], []⟩
    ∃ result t d, (g.generate model r).run s = (.ok result, t) ∧ result.mode = .widget ∧
      result.success = true ∧ result.uiSpec = some d ∧ d.sessionId ≠ r.sessionId ∧
      d.stage ≠ r.stage ∧
      (∃ w ∈ d.widgets, w.component ∉ g.catalog.eligible d.stage r.options.restrictToImplemented) ∧
      t.saved.map Prod.fst = [d] ∧ t.metrics.session d.sessionId = [] ∧
      t.metrics.session r.sessionId ≠ [] := by
  intro catalog g r payload model s
  let w : Widget :=
    ⟨"widget-1", "recap", 0, .object [], .object [], [], [], [], ⟨"any", "medium", [], ""⟩⟩
  let d : Document := ⟨"other", .diverge, .object [],
    .ofFields [("nodes", .array []), ("edges", .array [])], [w],
    .ofFields [("type", .text "single")], .object []⟩
  have hparts : ((g.generate model r).run s).1.toOption.map
      (fun result => (result.mode, result.success, result.uiSpec)) =
        some (.widget, true, some d) := by
    decide +kernel
  obtain ⟨result, hrun, hparts⟩ := exists_result_of_run hparts
  obtain ⟨hmode, hparts⟩ := Prod.mk.inj hparts
  obtain ⟨hsuccess, hd⟩ := Prod.mk.inj hparts
  exact ⟨result, _, d, hrun, hmode, hsuccess, hd, by decide, by decide,
    ⟨w, List.mem_singleton.mpr rfl, by decide +kernel⟩, by decide +kernel, by decide +kernel,
    by decide +kernel⟩

end Generator

end Stagewise
