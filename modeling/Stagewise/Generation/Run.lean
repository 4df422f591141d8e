import Stagewise.Catalog.Basic
import Stagewise.Config.Basic
import Stagewise.Generation.Attempt
import Stagewise.Generation.Store
import Stagewise.Metrics
import Stagewise.Prompt

/-! Generations. A request for widgets is tried until an answer holds a usable document or the
attempts are used up; a request for prose, or for a stage without eligible widgets, is tried once.
Everything that a generation does besides is kept in a state: the calls of the model, the documents
handed to the store and the records of what was measured. -/

namespace Stagewise

/-- A model with a state of its own: what it answers to a prompt for JSON and to one for prose, and
the time in milliseconds. -/
structure Model (σ : Type) where
  json : String → σ → Answer Json × σ
  text : String → σ → Answer String × σ
  clock : σ → Nat

/-- A call of a model. -/
structure Call where
  mode : Mode
  prompt : String
deriving DecidableEq

structure Generator where
  catalog : Catalog
  config : Config
  store : Option DocumentStore

/-- What generations leave behind. -/
structure GenerationState (σ : Type) where
  model : σ
  metrics : MetricsStore
  /-- The calls that were made, the first first. -/
  calls : List Call
  /-- The documents handed to the store, the first first, and what it answered. -/
  saved : List (Document × Except StoreError Unit)

abbrev Generation (σ : Type) := StateM (GenerationState σ)

namespace Generator

variable {σ : Type}

/-- A generator, if its configuration can be used. -/
def build (catalog : Catalog) (config : Config) (store : Option DocumentStore) :
    Except ConfigError Generator := do
  config.validate
  .ok ⟨catalog, config, store⟩

/-- A metrics store of the size that the configuration gives. -/
def metricsStore (g : Generator) : MetricsStore :=
  .empty g.config.metricsMaxSessions.toNat g.config.metricsMaxEntries.toNat

def askJson (model : Model σ) (prompt : String) : Generation σ (Answer Json) := do
  let s ← get
  let (answer, next) := model.json prompt s.model
  set { s with model := next, calls := s.calls ++ [Call.mk .widget prompt] }
  pure answer

def askText (model : Model σ) (prompt : String) : Generation σ (Answer String) := do
  let s ← get
  let (answer, next) := model.text prompt s.model
  set { s with model := next, calls := s.calls ++ [Call.mk .text prompt] }
  pure answer

/-- Hands a document to the store, if there is one. What it answers changes nothing else. -/
def persist (g : Generator) (document : Document) : Generation σ Unit :=
  match g.store with
  | none => pure ()
  | some store => modify fun s =>
    { s with saved := s.saved ++ [(document, store.save s.saved.length document)] }

/-- The prompt of an attempt after one that failed as given. -/
def nextPrompt (config : Config) (base : String) : Option AttemptError → String
  | some (.rejected violations) =>
    if config.feedbackViolations then Prompt.withFeedback base violations else base
  | _ => base

def addUsage (usage : TokenUsage) (reported : Option TokenUsage) : TokenUsage :=
  match reported with
  | some more => usage.add more
  | none => usage

def noAttempt : String := "no generation attempt was made"

def failureText : Option AttemptError → String
  | some e => e.message
  | none => noAttempt

/-- What attempts lead to: the document and the number of attempts before it, or the last error; and
the tokens that were used. -/
structure AttemptsOutcome where
  document : Except (Option AttemptError) (Document × Nat)
  usage : TokenUsage

/-- The attempts that are left, after `done` others with the given last error. -/
def attempts (g : Generator) (model : Model σ) (base : String) (eligible : List String)
    (left done : Nat) (usage : TokenUsage) (last : Option AttemptError) :
    Generation σ AttemptsOutcome :=
  match left with
  | 0 => pure ⟨.error last, usage⟩
  | left + 1 => do
    let answer ← askJson model (nextPrompt g.config base last)
    let usage := addUsage usage answer.usage?
    match answer.document g.config.attemptTimeout eligible with
    | .ok document =>
      persist g document
      pure ⟨.ok (document, done), usage⟩
    | .error e => attempts g model base eligible left (done + 1) usage (some e)

def measure (model : Model σ) (started : Nat) (usage : TokenUsage) :
    Generation σ GenerationMetrics := do
  pure (.ofUsage usage (model.clock (← get).model - started))

def generateWidgets (g : Generator) (model : Model σ) (r : Request) (eligible : List String) :
    Generation σ GenerationResult := do
  let started := model.clock (← get).model
  let base := Prompt.widget r (g.catalog.describe eligible) eligible
  let outcome ← attempts g model base eligible g.config.maxRetries.toNat 0 TokenUsage.zero none
  let metrics ← measure model started outcome.usage
  match outcome.document with
  | .ok (document, retries) => pure (.ofDocument document (UInt32.ofNat retries) metrics)
  | .error last => pure (.failure .widget g.config.maxRetries (failureText last) metrics)

def generateText (g : Generator) (model : Model σ) (r : Request) :
    Generation σ GenerationResult := do
  let started := model.clock (← get).model
  let answer ← askText model (Prompt.text r)
  let metrics ← measure model started (addUsage TokenUsage.zero answer.usage?)
  match answer.summary g.config.attemptTimeout with
  | .ok summary => pure (.ofSummary summary metrics)
  | .error e => pure (.failure .text 0 e.message metrics)

/-- The widgets that a request may use. -/
def eligible (g : Generator) (r : Request) : List String :=
  g.catalog.eligible r.stage r.options.restrictToImplemented

def recordMetrics (r : Request) (result : GenerationResult) : Generation σ Unit :=
  match result.metrics with
  | none => pure ()
  | some metrics => modify fun s =>
    let entry : MetricsRecord := ⟨result.mode, result.success, result.retryCount, metrics⟩
    { s with metrics := s.metrics.record r.sessionId entry }

/-- One generation. Only a request that cannot be used is an error; a generation that fails has a
result that tells why. -/
def generate (g : Generator) (model : Model σ) (r : Request) :
    Generation σ (Except RequestError GenerationResult) :=
  match r.validate with
  | .error e => pure (.error e)
  | .ok _ => do
    let eligible := g.eligible r
    let result ←
      if r.options.textOnlyMode || eligible.isEmpty then generateText g model r
      else generateWidgets g model r eligible
    recordMetrics r result
    pure (.ok result)

end Generator

end Stagewise
