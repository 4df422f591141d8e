import Stagewise.Catalog.Basic
import Stagewise.Config.Basic
import Stagewise.Formula.Fields
import Stagewise.Proofs.Document.Reload
import Stagewise.Request
import Stagewise.Result

/-! The structures that travel as JSON. Each comes back from what is written for it, unless a field of
any form is filled in with `null`: that one is read as left out. -/

namespace Stagewise

theorem TokenUsage.decoder_recovers : decoder.Recovers toJson := by
  rintro ⟨prompt, response⟩
  refine Fields.Makes.decoder_ofFields ?_ (by simp)
  refine .required ?_ rfl (Decoder.word64_inverts.recovers response)
  refine .required ?_ rfl (Decoder.word64_inverts.recovers prompt)
  exact Fields.makes_done _

theorem GenerationMetrics.decoder_recovers : decoder.Recovers toJson := by
  rintro ⟨prompt, response, total, elapsed⟩
  refine Fields.Makes.decoder_ofFields ?_ (by simp)
  refine .required ?_ rfl (Decoder.word64_inverts.recovers elapsed)
  refine .required ?_ rfl (Decoder.word64_inverts.recovers total)
  refine .required ?_ rfl (Decoder.word64_inverts.recovers response)
  refine .required ?_ rfl (Decoder.word64_inverts.recovers prompt)
  exact Fields.makes_done _

theorem WidgetDescriptor.decoder_recovers : decoder.Recovers toJson := by
  rintro ⟨id, description, configHint⟩
  refine Fields.Makes.decoder_ofFields ?_ (by simp)
  refine .required ?_ rfl (Decoder.text_inverts.recovers configHint)
  refine .required ?_ rfl (Decoder.text_inverts.recovers description)
  refine .required ?_ rfl (Decoder.text_inverts.recovers id)
  exact Fields.makes_done _

theorem Config.decoder_recovers : decoder.Recovers toJson := by
  rintro ⟨retries, timeout, feedback, backoff, sessions, entries⟩
  refine Fields.Makes.decoder_ofFields ?_ (by simp)
  refine .withDefault ?_ rfl (Decoder.size64_inverts.recovers entries)
  refine .withDefault ?_ rfl (Decoder.size64_inverts.recovers sessions)
  refine .withDefault ?_ rfl (Decoder.word64_inverts.recovers backoff)
  refine .withDefault ?_ rfl (Decoder.bool_inverts.recovers feedback)
  refine .withDefault ?_ rfl (Decoder.word64_inverts.recovers timeout)
  refine .withDefault ?_ rfl (Decoder.word32_inverts.recovers retries)
  exact Fields.makes_done _

theorem FieldFormulas.decoder_recovers : decoder.Recovers toJson := by
  rintro ⟨visibleWhen, enabledWhen, computed⟩
  refine Fields.Makes.decoder_ofPresent ?_ (by simp)
  refine .optionalText ?_ rfl
  refine .optionalText ?_ rfl
  refine .optionalText ?_ rfl
  exact Fields.makes_done _

theorem Mode.decoder_recovers : decoder.Recovers toJson := by
  intro mode
  cases mode <;> rfl

theorem GenerationResult.decoder_recovers : decoder.Recovers toJson := by
  rintro ⟨success, mode, document?, summary?, retries, error?, metrics?⟩
  refine Fields.Makes.decoder_ofPresent ?_ (by simp)
  refine .optional ?_ rfl fun m _ =>
    ⟨GenerationMetrics.decoder_recovers m, by simp [GenerationMetrics.toJson, Json.ofFields]⟩
  refine .optionalText ?_ rfl
  refine .required ?_ rfl (Decoder.word32_inverts.recovers retries)
  refine .optionalText ?_ rfl
  refine .optional ?_ rfl fun d _ =>
    ⟨Document.decoder_recovers d, by simp [Document.toJson, Json.ofFields]⟩
  refine .required ?_ rfl (Mode.decoder_recovers mode)
  refine .required ?_ rfl (Decoder.bool_inverts.recovers success)
  exact Fields.makes_done _

/-- No optional field of any form holds `null`. -/
def RequestOptions.NoNull (o : RequestOptions) : Prop :=
  o.previousStageResults ≠ some .null

/-- No optional field of any form holds `null`. -/
structure Request.NoNull (r : Request) : Prop where
  factors : r.factors ≠ some .null
  options : r.options.NoNull

theorem RequestOptions.decoder_toJson {o : RequestOptions} (h : o.NoNull) :
    decoder o.toJson = .ok o := by
  obtain ⟨restricted, textOnly, results?, bottleneck?⟩ := o
  refine Fields.Makes.decoder_ofPresent ?_ (by simp)
  refine .optionalText ?_ rfl
  refine .optionalRaw ?_ rfl h
  refine .withDefault ?_ rfl (Decoder.bool_inverts.recovers textOnly)
  refine .withDefault ?_ rfl (Decoder.bool_inverts.recovers restricted)
  exact Fields.makes_done _

theorem RequestOptions.noNull_of_decoder {json : Json} {o : RequestOptions}
    (h : decoder json = .ok o) : o.NoNull := by
  refine Fields.Ensures.decoder ?_ h
  refine .and ?_ (Field.ensures_true _)
  refine .and ?_ (Field.optionalRaw_ensures _)
  refine .and ?_ (Field.ensures_true _)
  refine .and ?_ (Field.ensures_true _)
  exact Fields.done_ensures fun _ _ _ _ results? hresults _ _ => hresults

namespace Request

variable {r : Request}

theorem decoder_toJson (h : r.NoNull) : decoder r.toJson = .ok r := by
  obtain ⟨sessionId, concernText, stage, factors?, options⟩ := r
  refine Fields.Makes.decoder_ofPresent ?_ (by simp)
  refine .withDefault ?_ rfl (RequestOptions.decoder_toJson h.options)
  refine .optionalRaw ?_ rfl h.factors
  refine .required ?_ rfl (Stage.decoder_recovers stage)
  refine .withDefault ?_ rfl (Decoder.text_inverts.recovers concernText)
  refine .withDefault ?_ rfl (Decoder.text_inverts.recovers sessionId)
  exact Fields.makes_done _

theorem options_ensures :
    (Field.withDefault "options" RequestOptions.decoder .standard).Ensures RequestOptions.NoNull where
  read _ _ := RequestOptions.noNull_of_decoder
  absent o h := by
    obtain rfl := Option.some.inj h
    simp [RequestOptions.NoNull, RequestOptions.standard]

theorem noNull_of_decoder {json : Json} (h : decoder json = .ok r) : r.NoNull := by
  refine Fields.Ensures.decoder ?_ h
  refine .and ?_ options_ensures
  refine .and ?_ (Field.optionalRaw_ensures _)
  refine .and ?_ (Field.ensures_true _)
  refine .and ?_ (Field.ensures_true _)
  refine .and ?_ (Field.ensures_true _)
  exact Fields.done_ensures fun _ _ _ _ _ _ factors? hfactors options hoptions =>
    ⟨hfactors, hoptions⟩

theorem checkStage_toJson (r : Request) : checkStage r.toJson = .ok () := by
  have hget : r.toJson.field? "stage" = some (.text r.stage.name) :=
    Json.field?_ofPresent (by simp) "stage"
  have hstage : Stage.ofName r.stage.name = .ok r.stage := by
    rw [Stage.ofName, Stage.lookup_named_iff.mpr rfl]
  simp only [checkStage, hget, hstage, Except.map]

/-- A request that can be written and read again passes all checks on the way back if it is valid. -/
theorem ofJson_toJson (h : r.NoNull) (hvalid : r.validate = .ok ()) : ofJson r.toJson = .ok r := by
  have hread : (decoder r.toJson).mapError (fun e => RequestError.invalidJson e.message) = .ok r := by
    rw [decoder_toJson h]
    rfl
  have hchecked : (validate r >>= fun _ => .ok r) = .ok r :=
    Outcome.bind_eq_ok_iff.mpr ⟨(), hvalid, rfl⟩
  exact Outcome.bind_eq_ok_iff.mpr
    ⟨(), checkStage_toJson r, Outcome.bind_eq_ok_iff.mpr ⟨r, hread, hchecked⟩⟩

end Request

/-- Structure by structure; of requests and their options only those can be read back in which no
optional field of any form holds `null`, and no others are ever read. -/
theorem wire_roundTrips :
    Request.decoder.RoundTrips Request.toJson Request.NoNull ∧
    RequestOptions.decoder.RoundTrips RequestOptions.toJson RequestOptions.NoNull ∧
    GenerationResult.decoder.RoundTrips GenerationResult.toJson (fun _ => True) ∧
    GenerationMetrics.decoder.RoundTrips GenerationMetrics.toJson (fun _ => True) ∧
    TokenUsage.decoder.RoundTrips TokenUsage.toJson (fun _ => True) ∧
    Document.decoder.RoundTrips Document.toJson (fun _ => True) ∧
    Widget.decoder.RoundTrips Widget.toJson (fun _ => True) ∧
    WidgetMetadata.decoder.RoundTrips WidgetMetadata.toJson (fun _ => True) ∧
    FieldFormulas.decoder.RoundTrips FieldFormulas.toJson (fun _ => True) ∧
    WidgetDescriptor.decoder.RoundTrips WidgetDescriptor.toJson (fun _ => True) ∧
    Config.decoder.RoundTrips Config.toJson (fun _ => True) ∧
    ∀ r : Request, r.NoNull → r.validate = .ok () → Request.ofJson r.toJson = .ok r := by
  have hrequest := Decoder.roundTrips (fun _ => Request.decoder_toJson)
    fun _ _ => Request.noNull_of_decoder
  have hoptions := Decoder.roundTrips (fun _ => RequestOptions.decoder_toJson)
    fun _ _ => RequestOptions.noNull_of_decoder
  exact ⟨hrequest, hoptions, GenerationResult.decoder_recovers.roundTrips,
    GenerationMetrics.decoder_recovers.roundTrips, TokenUsage.decoder_recovers.roundTrips,
    Document.decoder_recovers.roundTrips, Widget.decoder_recovers.roundTrips,
    WidgetMetadata.decoder_recovers.roundTrips, FieldFormulas.decoder_recovers.roundTrips,
    WidgetDescriptor.decoder_recovers.roundTrips, Config.decoder_recovers.roundTrips,
    fun _ => Request.ofJson_toJson⟩

/-- A request in an array, its stage as an object and an option as `null`. -/
theorem request_array_roundTrips :
    let json : Json := .array [.text "s", .text "moving house", .object [("summary", .null)],
      .object [("mood", .null)], .array [.bool true, .bool false, .null, .text "time"]]
    let r : Request := ⟨"s", "moving house", .summary, some (.object [("mood", .null)]),
      ⟨true, false, none, some "time"⟩⟩
    Request.decoder json = .ok r ∧ r.NoNull ∧ r.validate = .ok () ∧
      Request.decoder r.toJson = .ok r ∧ Request.ofJson r.toJson = .ok r := by
  intro json r
  have hread : Request.decoder json = .ok r := Outcome.toOption_eq_some_iff.mp (by decide +kernel)
  have hvalid : r.validate = .ok () := Outcome.toOption_eq_some_iff.mp (by decide +kernel)
  obtain ⟨hrequest, -, -, -, -, -, -, -, -, -, -, hofJson⟩ := wire_roundTrips
  have hnull : r.NoNull := hrequest.inClass_of_read json r hread
  exact ⟨hread, hnull, hvalid, (hrequest.again json r hread).1, hofJson r hnull hvalid⟩

end Stagewise
