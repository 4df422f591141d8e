import Stagewise.Duration
import Stagewise.Json.Reader
import Stagewise.Json.Shape

/-! The configuration of a generator. Every part has a default. -/

namespace Stagewise

structure Config where
  /-- The attempts that are made before a generation fails. -/
  maxRetries : UInt32
  /-- How long a model may take for one answer. -/
  attemptTimeoutMs : UInt64
  /-- Whether a prompt names what was wrong with the answer before it. -/
  feedbackViolations : Bool
  /-- How long to wait between attempts; zero for not at all. -/
  retryBackoffMs : UInt64
  metricsMaxSessions : UInt64
  metricsMaxEntries : UInt64
deriving DecidableEq

inductive ConfigError where
  /-- The text holds a value of the wrong type or range, or a field twice. -/
  | wrongData
  /-- The text is broken. -/
  | broken
  | invalid (detail : String)
deriving DecidableEq

def ConfigError.message : ConfigError → String
  | wrongData | broken => "Failed to parse configuration JSON: " ++ Json.brokenText
  | invalid detail => "Invalid configuration: " ++ detail

namespace Config

def standard : Config where
  maxRetries := 3
  attemptTimeoutMs := 60000
  feedbackViolations := false
  retryBackoffMs := 0
  metricsMaxSessions := 1024
  metricsMaxEntries := 64

def fields : Fields Config :=
  ((((((Fields.done Config.mk).and
    (.withDefault "max_retries" Decoder.word32 standard.maxRetries)).and
    (.withDefault "attempt_timeout_ms" Decoder.word64 standard.attemptTimeoutMs)).and
    (.withDefault "feedback_violations" Decoder.bool standard.feedbackViolations)).and
    (.withDefault "retry_backoff_ms" Decoder.word64 standard.retryBackoffMs)).and
    (.withDefault "metrics_max_sessions" Decoder.size64 standard.metricsMaxSessions)).and
    (.withDefault "metrics_max_entries" Decoder.size64 standard.metricsMaxEntries)

def decoder : Decoder Config :=
  fields.decoder "GeneratorConfig"

def toJson (c : Config) : Json :=
  .ofFields
    [("max_retries", .int c.maxRetries.toNat),
     ("attempt_timeout_ms", .int c.attemptTimeoutMs.toNat),
     ("feedback_violations", .bool c.feedbackViolations),
     ("retry_backoff_ms", .int c.retryBackoffMs.toNat),
     ("metrics_max_sessions", .int c.metricsMaxSessions.toNat),
     ("metrics_max_entries", .int c.metricsMaxEntries.toNat)]

/-- A configuration that can be used: it allows an attempt, and time for it. -/
def validate (c : Config) : Except ConfigError Unit :=
  if c.maxRetries = 0 then .error (.invalid "max_retries must be at least 1")
  else if c.attemptTimeoutMs = 0 then .error (.invalid "attempt_timeout_ms must be greater than 0")
  else .ok ()

def attemptTimeout (c : Config) : Duration :=
  ⟨c.attemptTimeoutMs.toNat⟩

def retryBackoff? (c : Config) : Option Duration :=
  if c.retryBackoffMs = 0 then none else some ⟨c.retryBackoffMs.toNat⟩

end Config

end Stagewise
