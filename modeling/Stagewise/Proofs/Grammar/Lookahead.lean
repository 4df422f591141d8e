import Stagewise.Proofs.Grammar.Derivation

/-! What the parsers decide by the tokens ahead, in terms of the grammar: the tables of operators,
signs and keywords, literal indices and callees. Every token that can go on with a phrase has a
binding strength, and a phrase ends where the next token is weaker than the phrase. -/

namespace Stagewise

namespace Grammar

theorem binaryOp?_of_mem {level : Nat} {s : Symbol} {op : BinaryOp}
    (h : (s, op) ∈ operators level) :
    binaryOp? (.symbol s) = some op ∧ op.precedence = level := by
  unfold operators at h
  split at h <;> simp only [List.mem_cons, List.not_mem_nil, Prod.mk.injEq, or_false] at h
  all_goals cases s <;> simp_all [binaryOp?, BinaryOp.precedence]

theorem mem_of_binaryOp? {kind : TokenKind} {op : BinaryOp} (h : binaryOp? kind = some op) :
    ∃ s, kind = .symbol s ∧ (s, op) ∈ operators op.precedence := by
  unfold binaryOp? at h
  split at h <;> simp only [Option.some.injEq, reduceCtorEq] at h
  all_goals subst h; exact ⟨_, rfl, by decide⟩

theorem unaryOp?_of_mem {s : Symbol} {op : UnaryOp} (h : (s, op) ∈ signs) :
    unaryOp? (.symbol s) = some op := by
  simp only [signs, List.mem_cons, List.not_mem_nil, Prod.mk.injEq, or_false] at h
  rcases h with ⟨rfl, rfl⟩ | ⟨rfl, rfl⟩ <;> rfl

theorem mem_of_unaryOp? {kind : TokenKind} {op : UnaryOp} (h : unaryOp? kind = some op) :
    ∃ s, kind = .symbol s ∧ (s, op) ∈ signs := by
  unfold unaryOp? at h
  split at h <;> simp only [Option.some.injEq, reduceCtorEq] at h
  all_goals subst h; exact ⟨_, rfl, by decide⟩

theorem keyword?_eq_some_iff {n : String} {v : Value} :
    keyword? n = some v ↔ (n, v) ∈ keywords := by
  unfold keyword?
  grind [keywords]

theorem keyword?_eq_none_iff {n : String} : keyword? n = none ↔ n ∉ keywords.map Prod.fst := by
  unfold keyword?
  grind [keywords]

theorem literalIndex?_eq_some_iff {ts rest : List Token} {v : Value} :
    literalIndex? ts = some (v, rest) ↔ LiteralIndex ts v rest := by
  constructor
  · intro h
    unfold literalIndex? at h
    split at h <;> simp only [Option.some.injEq, Prod.mk.injEq, reduceCtorEq] at h
    all_goals obtain ⟨rfl, rfl⟩ := h; constructor
  · rintro ⟨⟩ <;> rfl

theorem literalIndex?_eq_none_iff {ts : List Token} :
    literalIndex? ts = none ↔ ∀ v rest, ¬ LiteralIndex ts v rest := by
  simp only [← literalIndex?_eq_some_iff, Option.eq_none_iff_forall_ne_some, ne_eq, Prod.forall]

theorem path?_eq_some_iff {e : Expression} {path : String} :
    e.path? = some path ↔ Dotted e path := by
  constructor
  · intro h
    induction e using Expression.path?.induct generalizing path with
    | case1 n =>
      simp only [Expression.path?, Option.some.injEq] at h
      exact h ▸ .name n
    | case2 object property ih =>
      simp only [Expression.path?, Option.map_eq_some_iff] at h
      obtain ⟨base, hb, rfl⟩ := h
      exact .member property (ih hb)
    | case3 e hn hm =>
      unfold Expression.path? at h
      split at h
      · exact absurd rfl (hn _)
      · exact absurd rfl (hm _ _)
      · cases h
  · intro h
    induction h with
    | name n => rfl
    | member property h ih => simp [Expression.path?, ih]

/-- How tightly a token binds that goes on with what stands before it. -/
def strength? : TokenKind → Option Nat
  | .symbol .arrow => some 9
  | .symbol .dot | .symbol .leftBracket | .symbol .leftParen => some 8
  | .symbol .question => some 0
  | kind => (binaryOp? kind).map BinaryOp.precedence

/-- No token that binds as tightly as `level` comes next. -/
def Stops (level : Nat) (rest : List Token) : Prop :=
  ∀ n, strength? (nextKind rest) = some n → n < level

theorem Stops.mono {a b : Nat} {rest : List Token} (h : Stops a rest) (hab : a ≤ b) :
    Stops b rest :=
  fun n hn => Nat.lt_of_lt_of_le (h n hn) hab

theorem strength?_of_binaryOp? {kind : TokenKind} {op : BinaryOp}
    (h : binaryOp? kind = some op) : strength? kind = some op.precedence := by
  obtain ⟨s, rfl, _⟩ := mem_of_binaryOp? h
  cases s <;> simp_all [strength?, binaryOp?]

theorem strength?_cases {kind : TokenKind} {n : Nat} (h : strength? kind = some n) :
    (kind = .symbol .arrow ∧ n = 9) ∨ ((suffix? kind).isSome = true ∧ n = 8) ∨
      (kind = .symbol .question ∧ n = 0) ∨
      ∃ op, binaryOp? kind = some op ∧ op.precedence = n := by
  unfold strength? at h
  split at h
  · exact .inl ⟨rfl, by simpa using h.symm⟩
  · exact .inr (.inl ⟨rfl, by simpa using h.symm⟩)
  · exact .inr (.inl ⟨rfl, by simpa using h.symm⟩)
  · exact .inr (.inl ⟨rfl, by simpa using h.symm⟩)
  · exact .inr (.inr (.inl ⟨rfl, by simpa using h.symm⟩))
  · exact .inr (.inr (.inr (Option.map_eq_some_iff.mp h)))

theorem Stops.precedence_lt {level : Nat} {rest : List Token} {op : BinaryOp}
    (h : Stops level rest) (hop : binaryOp? (nextKind rest) = some op) : op.precedence < level :=
  h _ (strength?_of_binaryOp? hop)

theorem Stops.suffix?_eq_none {level : Nat} {rest : List Token} (h : Stops level rest)
    (hl : level ≤ 8) : suffix? (nextKind rest) = none := by
  unfold suffix?
  split
  · rename_i hk
    have := h 8 (by rw [hk]; rfl)
    omega
  · rename_i hk
    have := h 8 (by rw [hk]; rfl)
    omega
  · rename_i hk
    have := h 8 (by rw [hk]; rfl)
    omega
  · rfl

theorem Stops.ne_question {rest : List Token} (h : Stops 0 rest) :
    nextKind rest ≠ .symbol .question := by
  intro hk
  have := h 0 (by rw [hk]; rfl)
  omega

theorem Stops.ne_arrow {level : Nat} {rest : List Token} (h : Stops level rest) (hl : level ≤ 9) :
    nextKind rest ≠ .symbol .arrow := by
  intro hk
  have := h 9 (by rw [hk]; rfl)
  omega

theorem precedence_le (op : BinaryOp) : op.precedence ≤ 6 := by
  cases op <;> decide

theorem mem_operators_level {level : Nat} {s : Symbol} {op : BinaryOp}
    (h : (s, op) ∈ operators level) : strength? (.symbol s) = some level := by
  obtain ⟨hop, rfl⟩ := binaryOp?_of_mem h
  exact strength?_of_binaryOp? hop

/-- Whether a token may come directly after a phrase of a formula. -/
def canFollow : TokenKind → Bool
  | .number _ | .text _ | .name _ | .symbol .arrow | .symbol .bang => false
  | _ => true

theorem stops_of_canFollow {rest : List Token} (h : canFollow (nextKind rest) = true) :
    Stops 9 rest := by
  intro n hn
  rcases strength?_cases hn with ⟨hk, -⟩ | ⟨-, rfl⟩ | ⟨-, rfl⟩ | ⟨op, -, rfl⟩
  · simp [hk, canFollow] at h
  · decide
  · decide
  · exact Nat.lt_of_le_of_lt (precedence_le op) (by decide)

theorem Stops.of_suffix? {rest : List Token} (h : Stops 9 rest)
    (hs : suffix? (nextKind rest) = none) : Stops 8 rest := by
  intro n hn
  have := h n hn
  rcases strength?_cases hn with ⟨-, rfl⟩ | ⟨hk, -⟩ | ⟨-, rfl⟩ | ⟨op, -, rfl⟩
  · omega
  · simp [hs] at hk
  · decide
  · exact Nat.lt_of_le_of_lt (precedence_le op) (by decide)

theorem Stops.of_binaryOp? {level : Nat} {rest : List Token} (h : Stops 8 rest) (hl : 0 < level)
    (hb : ∀ op, binaryOp? (nextKind rest) = some op → op.precedence < level) :
    Stops level rest := by
  intro n hn
  have := h n hn
  rcases strength?_cases hn with ⟨-, rfl⟩ | ⟨-, rfl⟩ | ⟨-, rfl⟩ | ⟨op, hop, rfl⟩
  · omega
  · omega
  · exact hl
  · exact hb op hop

theorem Stops.of_ne_question {rest : List Token} (h : Stops 1 rest)
    (hq : nextKind rest ≠ .symbol .question) : Stops 0 rest := by
  intro n hn
  have := h n hn
  rcases strength?_cases hn with ⟨-, rfl⟩ | ⟨-, rfl⟩ | ⟨hk, -⟩ | ⟨op, -, rfl⟩
  · omega
  · omega
  · exact absurd hk hq
  · cases op <;> simp [BinaryOp.precedence] at this

theorem stops_symbol {level n : Nat} {s : Symbol} {p : Nat} {ts : List Token}
    (h : strength? (.symbol s) = some n) (hn : n < level) :
    Stops level (⟨.symbol s, p⟩ :: ts) := by
  intro i hi
  rw [nextKind_cons, h] at hi
  obtain rfl := Option.some.inj hi
  exact hn

theorem stops_closing {level : Nat} {s : Symbol} {p : Nat} {ts : List Token}
    (h : strength? (.symbol s) = none) : Stops level (⟨.symbol s, p⟩ :: ts) := by
  intro i hi
  rw [nextKind_cons, h] at hi
  cases hi

theorem Closes.stops {rest : List Token} (h : Closes rest) : Stops 0 rest := by
  intro n hn
  simp only [Closes, List.mem_cons, List.not_mem_nil, or_false] at h
  rcases h with h | h | h | h | h <;> rw [h] at hn <;> cases hn

/-- After an expression of a formula there is something that closes it. -/
theorem Stops.closes {rest : List Token} (h : Stops 0 rest)
    (hf : canFollow (nextKind rest) = true) : Closes rest := by
  have hs := h.suffix?_eq_none (by omega)
  have hq := h.ne_question
  have hb : binaryOp? (nextKind rest) = none := by
    cases hop : binaryOp? (nextKind rest) with
    | none => rfl
    | some op => exact absurd (h.precedence_lt hop) (Nat.not_lt_zero _)
  unfold Closes
  cases hk : nextKind rest with
  | symbol s => cases s <;> simp_all [canFollow, suffix?, binaryOp?]
  | finish => simp
  | _ => simp_all [canFollow]

end Grammar

end Stagewise
