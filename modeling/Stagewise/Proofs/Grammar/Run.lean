import Stagewise.Proofs.Grammar.Lookahead

/-! How the small parsers run on the tokens ahead. A run that needs some number of levels comes out
as it would without a limit if the limit allows them, and is refused as too deep if not. -/

namespace Stagewise

namespace Grammar

section

variable {α β : Type} {p : Parser α} {f : α → Parser β} {s t u : State} {a : α} {b : β}

theorem bind_ok (h : p s = .ok a t) : (p >>= f) s = f a t := by
  simp only [bind, EStateM.bind, h]

theorem bind_error {e : ParseError} (h : p s = .error e t) : (p >>= f) s = .error e t := by
  simp only [bind, EStateM.bind, h]

theorem ok_of_bind (h : (p >>= f) s = .ok b u) : ∃ a t, p s = .ok a t ∧ f a t = .ok b u := by
  cases hp : p s with
  | ok a t =>
    rw [bind_ok hp] at h
    exact ⟨a, t, rfl, h⟩
  | error e t =>
    rw [bind_error hp] at h
    cases h

end

variable {kind : TokenKind} {x : Expected} {ts : List Token} {d p : Nat}

theorem next_mk : (State.mk ts d).next = nextKind ts := by
  cases ts <;> rfl

theorem advance_cons {token : Token} (h : ts ≠ []) :
    State.advance ⟨token :: ts, d⟩ = ⟨ts, d⟩ := by
  cases ts with
  | nil => exact absurd rfl h
  | cons u us => rfl

theorem advance_bind {α : Type} {f : Unit → Parser α} {token : Token}
    (h : ts ≠ []) : (advance >>= f) ⟨token :: ts, d⟩ = f () ⟨ts, d⟩ := by
  change f () (State.advance ⟨token :: ts, d⟩) = _
  rw [advance_cons h]

theorem eat_run : eat kind ⟨ts, d⟩ =
    if nextKind ts = kind then .ok true (State.advance ⟨ts, d⟩) else .ok false ⟨ts, d⟩ := by
  change (if (State.mk ts d).next = kind then _ else _ : Parser Bool) ⟨ts, d⟩ = _
  rw [next_mk]
  split <;> rfl

theorem eat_next (h : ts ≠ []) : eat kind ⟨⟨kind, p⟩ :: ts, d⟩ = .ok true ⟨ts, d⟩ := by
  rw [eat_run, nextKind_cons, if_pos rfl, advance_cons h]

theorem eat_other (h : nextKind ts ≠ kind) : eat kind ⟨ts, d⟩ = .ok false ⟨ts, d⟩ := by
  rw [eat_run, if_neg h]

theorem expect_next (h : ts ≠ []) : expect kind x ⟨⟨kind, p⟩ :: ts, d⟩ = .ok () ⟨ts, d⟩ := by
  rw [expect, bind_ok (eat_next h)]
  rfl

theorem expectName_next {n : String} (h : ts ≠ []) :
    expectName x ⟨⟨.name n, p⟩ :: ts, d⟩ = .ok n ⟨ts, d⟩ := by
  change (advance >>= fun _ => pure n : Parser String) _ = _
  change EStateM.Result.ok n (State.advance _) = _
  rw [advance_cons h]

section

open Level

variable {limit : Nat} {below : Level} {expression : Parser Expression}

theorem get_bind {α : Type} {f : State → Parser α} {s : State} :
    ((get : Parser State) >>= f) s = f s s := rfl

theorem chainOver_run {least : Nat} {left : Expression} :
    below.chainOver limit least left ⟨ts, d⟩ =
      match binaryOp? (nextKind ts) with
      | none => .ok left ⟨ts, d⟩
      | some op =>
        if op.precedence < least then .ok left ⟨ts, d⟩
        else
          (do
            enter limit
            let right ← below.binary (op.precedence + 1)
            below.chain least (.binary op left right) : Parser Expression) (State.advance ⟨ts, d⟩) := by
  rw [chainOver, get_bind, next_mk]
  cases binaryOp? (nextKind ts) with
  | none => rfl
  | some op =>
    dsimp only
    split <;> rfl

theorem suffixesOver_run {object : Expression} :
    below.suffixesOver limit object ⟨ts, d⟩ =
      match suffix? (nextKind ts) with
      | none => .ok object ⟨ts, d⟩
      | some suffix =>
        (do
          enter limit
          let object ← suffixOf below.expression object suffix
          below.suffixes object : Parser Expression) ⟨ts, d⟩ := by
  rw [suffixesOver, get_bind, next_mk]
  cases suffix? (nextKind ts) <;> rfl

theorem unaryOver_run :
    below.unaryOver limit ⟨ts, d⟩ =
      match unaryOp? (nextKind ts) with
      | none => below.postfixOver limit ⟨ts, d⟩
      | some op =>
        (do
          let operand ← nested limit below.unary
          pure (.unary op operand) : Parser Expression) (State.advance ⟨ts, d⟩) := by
  rw [unaryOver, get_bind, next_mk]
  cases unaryOp? (nextKind ts) <;> rfl

theorem itemsUntil_run {item : Parser Expression} {closing : Symbol} {x : Expected} :
    itemsUntil item closing x ⟨ts, d⟩ =
      if nextKind ts = .symbol closing then .ok [] (State.advance ⟨ts, d⟩)
      else items item closing x ts ⟨ts, d⟩ := by
  by_cases h : nextKind ts = .symbol closing
  · rw [if_pos h, itemsUntil, bind_ok (eat_run.trans (if_pos h))]
    rfl
  · rw [if_neg h, itemsUntil, bind_ok (eat_other h)]
    rfl

theorem bracketSuffix_run {object : Expression} :
    bracketSuffix expression object ⟨ts, d⟩ =
      match literalIndex? ts with
      | some (v, rest) => .ok (.index object (.literal v)) ⟨rest, d⟩
      | none =>
        (do
          let predicate ← expression
          expect (.symbol .rightBracket) .filterEnd
          pure (.filter object predicate.boundToItem) : Parser Expression) ⟨ts, d⟩ := by
  rw [bracketSuffix, get_bind]
  cases literalIndex? ts <;> rfl

theorem callSuffix_run {callee : Expression} {path : String}
    (h : callee.path? = some path) :
    callSuffix expression callee ⟨ts, d⟩ =
      (do
        let args ← itemsUntil expression .rightParen .argumentEnd
        pure (.call path args) : Parser Expression) (State.advance ⟨ts, d⟩) := by
  rw [callSuffix, get_bind, h]
  rfl

theorem nameOrLambda_run {n : String} :
    nameOrLambda expression n ⟨ts, d⟩ =
      match keyword? n with
      | some v => .ok (.literal v) ⟨ts, d⟩
      | none =>
        if nextKind ts = .symbol .arrow then
          (do
            let body ← expression
            pure (.lambda n body) : Parser Expression) (State.advance ⟨ts, d⟩)
        else .ok (.name n) ⟨ts, d⟩ := by
  rw [nameOrLambda]
  cases keyword? n with
  | some v => rfl
  | none =>
    by_cases h : nextKind ts = .symbol .arrow
    · dsimp only
      rw [if_pos h, bind_ok (eat_run.trans (if_pos h))]
      rfl
    · dsimp only
      rw [if_neg h, bind_ok (eat_other h)]
      rfl

theorem primary_run {token : Token} :
    primary expression ⟨token :: ts, d⟩ =
      (match token.kind with
      | .number x => pure (.literal (.number x))
      | .text s => pure (.literal (.text s))
      | .name n => nameOrLambda expression n
      | .symbol .leftParen => group expression
      | .symbol .leftBracket => do
        let es ← itemsUntil expression .rightBracket .arrayEnd
        pure (.array es)
      | _ => unexpected .value (some token) : Parser Expression) (State.advance ⟨token :: ts, d⟩) := by
  rw [primary, get_bind]
  cases token with
  | mk kind position =>
    cases kind with
    | symbol s => cases s <;> rfl
    | _ => rfl

end

/-- What comes of a run that uses up to `levels` levels, when `r` comes of it without a limit. -/
def Within {α : Type} (limit levels : Nat) (run r : EStateM.Result ParseError State α) : Prop :=
  (levels ≤ limit → run = r) ∧ (limit < levels → ∃ t, run = .error (.tooDeep limit) t)

namespace Within

variable {α β : Type} {limit m n : Nat} {run r r' : EStateM.Result ParseError State α}

theorem refl (h : m ≤ limit) : Within limit m r r :=
  ⟨fun _ => rfl, fun hm => absurd h (Nat.not_le.mpr hm)⟩

theorem of_eq (hm : m ≤ limit) (h : run = r) : Within limit m run r :=
  h ▸ refl hm

theorem trans (h : Within limit m run r) (h' : m ≤ limit → Within limit n r r') :
    Within limit (max m n) run r' := by
  constructor
  · intro hl
    have hm : m ≤ limit := by omega
    rw [h.1 hm, (h' hm).1 (by omega)]
  · intro hl
    by_cases hm : m ≤ limit
    · obtain ⟨t, ht⟩ := (h' hm).2 (by omega)
      exact ⟨t, by rw [h.1 hm, ht]⟩
    · exact h.2 (by omega)

theorem bind {q : Parser α} {f : α → Parser β} {a : α} {s t : State}
    {r : EStateM.Result ParseError State β} (h : Within limit m (q s) (.ok a t))
    (h' : m ≤ limit → Within limit n (f a t) r) : Within limit (max m n) ((q >>= f) s) r := by
  constructor
  · intro hl
    have hm : m ≤ limit := by omega
    rw [bind_ok (h.1 hm), (h' hm).1 (by omega)]
  · intro hl
    by_cases hm : m ≤ limit
    · obtain ⟨u, hu⟩ := (h' hm).2 (by omega)
      exact ⟨u, by rw [bind_ok (h.1 hm), hu]⟩
    · obtain ⟨u, hu⟩ := h.2 (by omega)
      exact ⟨u, bind_error hu⟩

/-- A step that uses no level. -/
theorem of_bind {q : Parser α} {f : α → Parser β} {a : α} {s t : State}
    {r : EStateM.Result ParseError State β} (h : q s = .ok a t) (h' : Within limit n (f a t) r) :
    Within limit n ((q >>= f) s) r := by
  rw [bind_ok h]
  exact h'

theorem levels_eq (h : Within limit m run r) (hn : m = n) : Within limit n run r :=
  hn ▸ h

theorem enter {ts : List Token} {d : Nat} (limit : Nat) :
    Within limit (d + 1) (Grammar.enter limit ⟨ts, d⟩) (.ok () ⟨ts, d + 1⟩) := by
  constructor
  · intro h
    exact if_neg (Nat.not_lt.mpr h)
  · intro h
    exact ⟨_, if_pos h⟩

theorem nested {q : Parser α} {ts rest : List Token} {d : Nat} {a : α}
    (h : d + 1 ≤ limit → Within limit m (q ⟨ts, d + 1⟩) (.ok a ⟨rest, d + 1⟩)) :
    Within limit (max (d + 1) m) (Grammar.nested limit q ⟨ts, d⟩) (.ok a ⟨rest, d⟩) := by
  constructor
  · intro hl
    have hd : d + 1 ≤ limit := by omega
    simp only [Grammar.nested, (enter limit).1 hd, (h hd).1 (by omega)]
    rfl
  · intro hl
    by_cases hd : d + 1 ≤ limit
    · obtain ⟨u, hu⟩ := (h hd).2 (by omega)
      exact ⟨u.leave, by simp only [Grammar.nested, (enter limit).1 hd, hu]⟩
    · have hbelow : Within limit (d + 1) (Grammar.enter limit ⟨ts, d⟩) (.ok () ⟨ts, d + 1⟩) :=
        enter limit
      obtain ⟨u, hu⟩ := hbelow.2 (by omega)
      exact ⟨u, by simp only [Grammar.nested, hu]⟩

theorem levelled {q : Parser α} {ts rest : List Token} {d e : Nat} {a : α}
    (h : Within limit m (q ⟨ts, d⟩) (.ok a ⟨rest, e⟩)) :
    Within limit m (Grammar.levelled q ⟨ts, d⟩) (.ok a ⟨rest, d⟩) := by
  constructor
  · intro hl
    change
      (q >>= fun a => (modify fun t => { t with depth := d } : Parser Unit) >>= fun _ => pure a) _ = _
    rw [bind_ok (h.1 hl)]
    rfl
  · intro hl
    obtain ⟨u, hu⟩ := h.2 hl
    exact ⟨u, bind_error (p := q) hu⟩

end Within

end Grammar

end Stagewise
