import Stagewise.Generation.Run

/-! The run of the attempts at a request. Every model plays some sequence of answers to the prompts it
is sent, and every sequence is played by some model. The sequence fixes the run: the calls and their
prompts, the last error and what was used. -/

namespace Stagewise

namespace Answer

/-- The answer holds an object that is accepted as the document. -/
inductive Accepted (eligible : List String) : Answer Json → Document → Prop
  | reply {payload : Json} {usage : Option TokenUsage} {d : Document}
      (object : payload.isObject = true) (accepted : Document.accept (some eligible) payload = .ok d) :
      Accepted eligible (.reply payload usage) d

/-- The answer is of no use, and why. -/
inductive Refused (limit : Duration) (eligible : List String) : Answer Json → AttemptError → Prop
  | failure (e : ModelError) : Refused limit eligible (.failure e) (.model e)
  | late : Refused limit eligible .late (.deadline limit)
  | notObject {payload : Json} {usage : Option TokenUsage} {kind : String}
      (other : payload.isObject = false) (named : payload.Named kind) :
      Refused limit eligible (.reply payload usage) (.notObject kind)
  | rejected {payload : Json} {usage : Option TokenUsage} {violations : List Violation}
      (object : payload.isObject = true)
      (rejected : Document.accept (some eligible) payload = .error violations) :
      Refused limit eligible (.reply payload usage) (.rejected violations)

variable {limit : Duration} {eligible : List String} {answer : Answer Json}

theorem Accepted.document {d : Document} (h : answer.Accepted eligible d) :
    answer.document limit eligible = .ok d := by
  cases h with
  | reply object accepted =>
    simp only [Answer.document, payload, bind, Except.bind, object, if_true, accepted]
    rfl

theorem Refused.document {e : AttemptError} (h : answer.Refused limit eligible e) :
    answer.document limit eligible = .error e := by
  cases h with
  | failure e => rfl
  | late => rfl
  | notObject other named =>
    simp [Answer.document, payload, bind, Except.bind, other, Json.named_iff.mp named]
  | rejected object rejected =>
    simp only [Answer.document, payload, bind, Except.bind, object, if_true, rejected]
    rfl

theorem accepted_or_refused (limit : Duration) (eligible : List String) (answer : Answer Json) :
    (∃ d, answer.Accepted eligible d) ∨ ∃ e, answer.Refused limit eligible e := by
  cases answer with
  | failure e => exact .inr ⟨_, .failure e⟩
  | late => exact .inr ⟨_, .late⟩
  | reply payload usage =>
    cases hobject : payload.isObject with
    | false => exact .inr ⟨_, .notObject hobject (Json.named_iff.mpr rfl)⟩
    | true =>
      cases haccept : Document.accept (some eligible) payload with
      | ok d => exact .inl ⟨d, .reply hobject haccept⟩
      | error violations => exact .inr ⟨_, .rejected hobject haccept⟩

theorem refused_of_not_accepted (limit : Duration) (h : ∀ d, ¬answer.Accepted eligible d) :
    ∃ e, answer.Refused limit eligible e := by
  rcases accepted_or_refused limit eligible answer with ⟨d, hd⟩ | he
  · exact absurd hd (h d)
  · exact he

end Answer

/-- The model that answers calls for JSON one after another as given, and no others. -/
def Model.playing (answers : Nat → Answer Json) : Model Nat where
  json _ n := (answers n, n + 1)
  text _ n := (.late, n)
  clock _ := 0

namespace Generator

variable {σ : Type}

theorem run_bind {α β : Type} {x : Generation σ α} {f : α → Generation σ β}
    {s t : GenerationState σ} {a : α} (h : x.run s = (a, t)) : (x >>= f).run s = (f a).run t := by
  rw [StateT.run_bind, h]
  rfl

theorem run_askJson (model : Model σ) (prompt : String) (s : GenerationState σ) :
    (askJson model prompt).run s =
      ((model.json prompt s.model).1,
        { s with
          model := (model.json prompt s.model).2
          calls := s.calls ++ [⟨.widget, prompt⟩] }) :=
  rfl

section

variable (g : Generator) (base : String) (eligible : List String) (answers : Nat → Answer Json)

/-- The error of the last of that many attempts. -/
def lastError : Nat → Option AttemptError
  | 0 => none
  | n + 1 =>
    match (answers n).document g.config.attemptTimeout eligible with
    | .ok _ => none
    | .error e => some e

variable {g eligible answers} in
theorem lastError_succ {n : Nat} {e : AttemptError}
    (h : (answers n).Refused g.config.attemptTimeout eligible e) :
    g.lastError eligible answers (n + 1) = some e := by
  simp only [lastError, h.document]

/-- The call of the attempt that comes after that many others. -/
def attemptCall (n : Nat) : Call :=
  ⟨.widget, nextPrompt g.config base (g.lastError eligible answers n)⟩

/-- The tokens of that many attempts. -/
def usageOf : Nat → TokenUsage
  | 0 => .zero
  | n + 1 => addUsage (usageOf n) (answers n).usage?

end

/-- What a model plays to the attempts at a request, as if none of them ended it: its answers, and
the states it goes through. -/
structure Playback (g : Generator) (model : Model σ) (base : String) (eligible : List String)
    (start : σ) where
  answers : Nat → Answer Json
  states : Nat → σ
  states_zero : states 0 = start
  plays : ∀ n, model.json (nextPrompt g.config base (g.lastError eligible answers n)) (states n) =
    (answers n, states (n + 1))

namespace Playback

variable {g : Generator} {model : Model σ} {base : String} {eligible : List String} {start : σ}

section

variable (g : Generator) (model : Model σ) (base : String) (eligible : List String) (start : σ)

/-- The state of a model and the last error, after that many attempts. -/
def stateAndError : Nat → σ × Option AttemptError
  | 0 => (start, none)
  | n + 1 =>
    let (s, last) := stateAndError n
    let (answer, next) := model.json (nextPrompt g.config base last) s
    (next, match answer.document g.config.attemptTimeout eligible with
      | .ok _ => none
      | .error e => some e)

def answerOf (n : Nat) : Answer Json :=
  let (s, last) := stateAndError g model base eligible start n
  (model.json (nextPrompt g.config base last) s).1

theorem lastError_answerOf (n : Nat) :
    g.lastError eligible (answerOf g model base eligible start) n =
      (stateAndError g model base eligible start n).2 := by
  cases n <;> rfl

/-- Every model plays something from a state on. -/
def ofModel : Playback g model base eligible start where
  answers := answerOf g model base eligible start
  states n := (stateAndError g model base eligible start n).1
  states_zero := rfl
  plays n := by
    rw [lastError_answerOf]
    rfl

end

/-- Whatever the sequence of answers, there is a model that plays it. -/
def ofAnswers (answers : Nat → Answer Json) :
    Playback g (.playing answers) base eligible 0 where
  answers := answers
  states n := n
  states_zero := rfl
  plays _ := rfl

/-- The state after that many attempts, none of which ended the run. -/
def tried (p : Playback g model base eligible start) (s : GenerationState σ) (n : Nat) :
    GenerationState σ :=
  { s with
    model := p.states n
    calls := s.calls ++ (List.range n).map (g.attemptCall base eligible p.answers) }

theorem tried_zero {s : GenerationState σ} (p : Playback g model base eligible s.model) :
    p.tried s 0 = s := by
  simp [tried, p.states_zero]

theorem askJson_run (p : Playback g model base eligible start) (s : GenerationState σ) (n : Nat) :
    (askJson model (nextPrompt g.config base (g.lastError eligible p.answers n))).run (p.tried s n) =
      (p.answers n, p.tried s (n + 1)) := by
  have hplays := p.plays n
  have hnext : p.tried s (n + 1) =
      { p.tried s n with
        model := p.states (n + 1)
        calls := (p.tried s n).calls ++ [g.attemptCall base eligible p.answers n] } := by
    simp [tried, List.range_succ]
  rw [run_askJson, tried, hplays, hnext]
  rfl

/-- What is left to do after that many attempts, none of which ended the run. -/
def rest (p : Playback g model base eligible start) (left n : Nat) : Generation σ AttemptsOutcome :=
  g.attempts model base eligible left n (usageOf p.answers n) (g.lastError eligible p.answers n)

theorem rest_refused (p : Playback g model base eligible start) (s : GenerationState σ)
    (left n : Nat) {e : AttemptError}
    (h : (p.answers n).Refused g.config.attemptTimeout eligible e) :
    (p.rest (left + 1) n).run (p.tried s n) = (p.rest left (n + 1)).run (p.tried s (n + 1)) := by
  unfold rest
  rw [attempts, run_bind (p.askJson_run s n), lastError_succ h]
  simp only [h.document]
  rfl

theorem rest_accepted (p : Playback g model base eligible start) (s : GenerationState σ)
    (left n : Nat) {d : Document} (h : (p.answers n).Accepted eligible d) :
    (p.rest (left + 1) n).run (p.tried s n) =
      (⟨.ok (d, n), usageOf p.answers (n + 1)⟩, ((g.persist d).run (p.tried s (n + 1))).2) := by
  unfold rest
  rw [attempts, run_bind (p.askJson_run s n)]
  simp only [h.document]
  rfl

theorem rest_of_refused (p : Playback g model base eligible start) (s : GenerationState σ)
    {n : Nat} (left : Nat)
    (h : ∀ j < n, ∃ e, (p.answers j).Refused g.config.attemptTimeout eligible e) :
    (p.rest (n + left) 0).run (p.tried s 0) = (p.rest left n).run (p.tried s n) := by
  induction n generalizing left with
  | zero => rw [Nat.zero_add]
  | succ n ih =>
    obtain ⟨e, he⟩ := h n (Nat.lt_succ_self n)
    have hfirst := ih (left + 1) fun j hj => h j (Nat.lt_succ_of_lt hj)
    rw [Nat.add_right_comm, Nat.add_assoc, hfirst, p.rest_refused s left n he]

theorem run_accepted {s : GenerationState σ} (p : Playback g model base eligible s.model)
    {limit n : Nat} (hn : n < limit) {d : Document} (h : (p.answers n).Accepted eligible d)
    (hfirst : ∀ j < n, ∃ e, (p.answers j).Refused g.config.attemptTimeout eligible e) :
    (g.attempts model base eligible limit 0 .zero none).run s =
      (⟨.ok (d, n), usageOf p.answers (n + 1)⟩, ((g.persist d).run (p.tried s (n + 1))).2) := by
  obtain ⟨left, rfl⟩ : ∃ left, limit = n + (left + 1) := ⟨limit - n - 1, by omega⟩
  have hrun := p.rest_of_refused s (left + 1) hfirst
  rw [p.rest_accepted s left n h, tried_zero] at hrun
  exact hrun

theorem run_refused {s : GenerationState σ} (p : Playback g model base eligible s.model)
    {limit : Nat}
    (h : ∀ j < limit, ∃ e, (p.answers j).Refused g.config.attemptTimeout eligible e) :
    (g.attempts model base eligible limit 0 .zero none).run s =
      (⟨.error (g.lastError eligible p.answers limit), usageOf p.answers limit⟩,
        p.tried s limit) := by
  have hrun := p.rest_of_refused s 0 h
  rw [tried_zero] at hrun
  exact hrun

end Playback

end Generator

end Stagewise
