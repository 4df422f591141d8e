import Stagewise.Proofs.Grammar.Run

/-! Every derivation is followed by the parsers, with the levels that it counts. A parser at one
level in use stands so high in the tower that the levels above it in the limit and its height are
the same, so the ground is never reached before the limit. -/

namespace Stagewise

namespace Grammar

open Level

variable {limit : Nat}

/-- How weak the token after a phrase must be so that the parsers end the phrase before it. -/
def Phrase.bound : Phrase → Nat
  | expression => 0
  | chain level => level + 1
  | operand => 8
  | suffixed | primary => 9
  | list _ | listOrEmpty _ => 10

/-- A symbol that closes a list. -/
def Closing (closing : Symbol) : Prop :=
  closing = .rightParen ∨ closing = .rightBracket

/-- The parsers of a phrase follow a derivation. The chains and suffixes still go on from where they
have come to, since more of them may follow. -/
def Follows (limit : Nat) (phrase : Phrase) (ts rest : List Token) (e : Expression) (k m : Nat) :
    Prop :=
  ∀ h d, d + h = limit →
    match phrase with
    | .expression =>
      Within limit (d + m) ((ofHeight limit h).expressionOver limit ⟨ts, d⟩) (.ok e ⟨rest, d⟩)
    | .chain level => ∃ first mid n₁ n₂, d + k ≤ n₂ ∧ max n₁ n₂ = d + m ∧
      Within limit n₁ ((ofHeight limit h).unaryOver limit ⟨ts, d⟩) (.ok first ⟨mid, d⟩) ∧
      ∀ least ≤ level, Within limit n₂ ((ofHeight limit h).chainOver limit least first ⟨mid, d⟩)
        ((ofHeight limit (h - k)).chainOver limit least e ⟨rest, d + k⟩)
    | .operand =>
      Within limit (d + m) ((ofHeight limit h).unaryOver limit ⟨ts, d⟩) (.ok e ⟨rest, d⟩)
    | .suffixed => ∃ first mid n₁ n₂, d + k ≤ n₂ ∧ max n₁ n₂ = d + m ∧
      Within limit n₁ (primary ((ofHeight limit h).expressionOver limit) ⟨ts, d⟩)
        (.ok first ⟨mid, d⟩) ∧
      Within limit n₂ ((ofHeight limit h).suffixesOver limit first ⟨mid, d⟩)
        ((ofHeight limit (h - k)).suffixesOver limit e ⟨rest, d + k⟩)
    | .primary =>
      Within limit (d + m) (primary ((ofHeight limit h).expressionOver limit) ⟨ts, d⟩)
        (.ok e ⟨rest, d⟩)
    | .list closing => Closing closing → ∀ es x rounds, e = .array es →
      es.length ≤ List.length rounds →
      Within limit (d + m) (items ((ofHeight limit h).expressionOver limit) closing x rounds ⟨ts, d⟩)
        (.ok es ⟨rest, d⟩)
    | .listOrEmpty closing => Closing closing → ∀ es x, e = .array es →
      Within limit (d + m) (itemsUntil ((ofHeight limit h).expressionOver limit) closing x ⟨ts, d⟩)
        (.ok es ⟨rest, d⟩)

theorem Closing.ne_comma {closing : Symbol} (h : Closing closing) : closing ≠ .comma := by
  rcases h with rfl | rfl <;> decide

theorem Closing.not_first {closing : Symbol} (h : Closing closing) :
    closing ∉ [Symbol.bang, .minus, .leftParen, .leftBracket] := by
  rcases h with rfl | rfl <;> decide

theorem Closing.strength?_eq_none {closing : Symbol} (h : Closing closing) :
    strength? (.symbol closing) = none := by
  rcases h with rfl | rfl <;> rfl

/-- What has suffixes, or could have, does not start with a sign. -/
theorem Derives.unaryOp?_eq_none {phrase : Phrase} {ts rest : List Token} {e : Expression}
    {k m : Nat} (h : Derives phrase ts rest e k m) (hp : phrase = .suffixed ∨ phrase = .primary) :
    unaryOp? (nextKind ts) = none := by
  induction h with
  | bare _ ih => exact ih (.inr rfl)
  | length _ ih | member _ _ ih | projection _ ih | index _ _ ih => exact ih hp
  | filter _ _ _ ih | call _ _ _ ih => exact ih hp
  | number | text | keyword | name | lambda | group | array => rfl
  | _ => simp at hp

theorem chainOver_stop {below : Level} {least : Nat} {e : Expression} {rest : List Token} {d : Nat}
    (h : Stops least rest) : below.chainOver limit least e ⟨rest, d⟩ = .ok e ⟨rest, d⟩ := by
  rw [chainOver_run]
  split
  · rfl
  · rename_i op hop
    rw [if_pos (h.precedence_lt hop)]

theorem suffixesOver_stop {below : Level} {e : Expression} {rest : List Token} {d : Nat}
    (h : Stops 8 rest) : below.suffixesOver limit e ⟨rest, d⟩ = .ok e ⟨rest, d⟩ := by
  rw [suffixesOver_run, h.suffix?_eq_none (Nat.le_refl 8)]

theorem Follows.binaryOver {level k m : Nat} {ts rest : List Token} {e : Expression}
    (h : Follows limit (.chain level) ts rest e k m) (hs : Stops level rest) {g d : Nat}
    (hd : d + g = limit) :
    Within limit (d + m) ((ofHeight limit g).binaryOver limit level ⟨ts, d⟩) (.ok e ⟨rest, d⟩) := by
  obtain ⟨first, mid, n₁, n₂, hk, hm, hfirst, hchain⟩ := h g d hd
  refine (hfirst.bind fun _ => ?_).levels_eq hm
  refine Within.levelled (e := d + k) ?_
  exact ((hchain level (Nat.le_refl _)).trans (n := 0) fun _ =>
    Within.of_eq (Nat.zero_le _) (chainOver_stop hs)).levels_eq (by omega)

theorem Follows.postfixOver {k m : Nat} {ts rest : List Token} {e : Expression}
    (h : Follows limit .suffixed ts rest e k m) (hs : Stops 8 rest) {g d : Nat}
    (hd : d + g = limit) :
    Within limit (d + m) ((ofHeight limit g).postfixOver limit ⟨ts, d⟩) (.ok e ⟨rest, d⟩) := by
  obtain ⟨first, mid, n₁, n₂, hk, hm, hfirst, hchain⟩ := h g d hd
  refine (hfirst.bind fun _ => ?_).levels_eq hm
  refine Within.levelled (e := d + k) ?_
  exact (hchain.trans (n := 0) fun _ =>
    Within.of_eq (Nat.zero_le _) (suffixesOver_stop hs)).levels_eq (by omega)

/-- One operator more in a chain. -/
theorem chainOver_operation {level least g d n p : Nat} {s : Symbol} {op : BinaryOp}
    {us rest : List Token} {a b : Expression} (hd : d + g = limit)
    (known : (s, op) ∈ operators level) (hl : least ≤ level) (hus : us ≠ [])
    (right : ∀ g d, d + g = limit →
      Within limit (d + n) ((ofHeight limit g).binaryOver limit (level + 1) ⟨us, d⟩)
        (.ok b ⟨rest, d⟩)) :
    Within limit (d + 1 + n)
      ((ofHeight limit g).chainOver limit least a ⟨⟨.symbol s, p⟩ :: us, d⟩)
      ((ofHeight limit (g - 1)).chainOver limit least (.binary op a b) ⟨rest, d + 1⟩) := by
  obtain ⟨hop, rfl⟩ := binaryOp?_of_mem known
  have hrun : (ofHeight limit g).chainOver limit least a ⟨⟨.symbol s, p⟩ :: us, d⟩ =
      (do
        enter limit
        let right ← (ofHeight limit g).binary (op.precedence + 1)
        (ofHeight limit g).chain least (.binary op a right) : Parser Expression) ⟨us, d⟩ := by
    rw [chainOver_run, nextKind_cons, hop, advance_cons hus]
    exact if_neg (Nat.not_lt.mpr hl)
  rw [hrun]
  refine ((Within.enter limit).bind (n := d + 1 + n) fun hlimit => ?_).levels_eq (by omega)
  obtain ⟨g, rfl⟩ : ∃ g', g = g' + 1 := ⟨g - 1, by omega⟩
  refine ((right g (d + 1) (by omega)).bind (n := 0) fun _ => ?_).levels_eq (by omega)
  exact Within.refl (Nat.zero_le _)

/-- One suffix more. -/
theorem suffixesOver_suffix {g d n : Nat} {suffix : Suffix} {us rest : List Token}
    {a b : Expression} (hd : d + g = limit) (known : suffix? (nextKind us) = some suffix)
    (run : ∀ g d, d + g = limit →
      Within limit (d + n) (suffixOf ((ofHeight limit g).expressionOver limit) a suffix ⟨us, d⟩)
        (.ok b ⟨rest, d⟩)) :
    Within limit (d + 1 + n) ((ofHeight limit g).suffixesOver limit a ⟨us, d⟩)
      ((ofHeight limit (g - 1)).suffixesOver limit b ⟨rest, d + 1⟩) := by
  rw [suffixesOver_run, known]
  refine ((Within.enter limit).bind (n := d + 1 + n) fun hlimit => ?_).levels_eq (by omega)
  obtain ⟨g, rfl⟩ : ∃ g', g = g' + 1 := ⟨g - 1, by omega⟩
  refine ((run g (d + 1) (by omega)).bind (n := 0) fun _ => ?_).levels_eq (by omega)
  exact Within.refl (Nat.zero_le _)

theorem follows_plain {ts rest : List Token} {e : Expression} {k m : Nat}
    (h : Follows limit (.chain 1) ts rest e k m) (hs : Stops 0 rest) :
    Follows limit .expression ts rest e 0 (m + 1) := by
  intro g d hd
  refine (Within.nested (m := d + 1 + m) fun hlimit => ?_).levels_eq (by omega)
  obtain ⟨g, rfl⟩ : ∃ g', g = g' + 1 := ⟨g - 1, by omega⟩
  refine ((h.binaryOver (hs.mono (by omega)) (by omega)).bind (n := 0) fun _ => ?_).levels_eq
    (by omega)
  refine Within.of_bind (eat_other hs.ne_question) ?_
  exact Within.refl (Nat.zero_le _)

theorem follows_conditional {ts us vs rest : List Token} {a b c : Expression}
    {k m i n j l p q : Nat} (hus : us ≠ []) (hvs : vs ≠ [])
    (test : Follows limit (.chain 1) ts (⟨.symbol .question, p⟩ :: us) a k m)
    (consequent : Follows limit .expression us (⟨.symbol .colon, q⟩ :: vs) b i n)
    (alternate : Follows limit .expression vs rest c j l) :
    Follows limit .expression ts rest (.conditional a b c) 0 (max m (max n l) + 1) := by
  intro g d hd
  refine (Within.nested (m := d + 1 + max m (max n l)) fun hlimit => ?_).levels_eq (by omega)
  obtain ⟨g, rfl⟩ : ∃ g', g = g' + 1 := ⟨g - 1, by omega⟩
  have htest := test.binaryOver (g := g) (d := d + 1) (stops_symbol rfl (by omega)) (by omega)
  refine (htest.bind (n := d + 1 + max n l) fun _ => ?_).levels_eq (by omega)
  refine Within.of_bind (eat_next hus) ?_
  refine ((consequent g (d + 1) (by omega)).bind (n := d + 1 + l) fun _ => ?_).levels_eq (by omega)
  refine Within.of_bind (expect_next hvs) ?_
  refine ((alternate g (d + 1) (by omega)).bind (n := 0) fun _ => ?_).levels_eq (by omega)
  exact Within.refl (Nat.zero_le _)

theorem follows_single {ts rest : List Token} {e : Expression} {k m : Nat}
    (h : Follows limit .operand ts rest e k m) : Follows limit (.chain 7) ts rest e 0 m := by
  intro g d hd
  refine ⟨e, rest, d + m, d, Nat.le_refl _, by omega, h g d hd, fun least _ => ?_⟩
  exact Within.refl (by omega)

theorem follows_tighter {level : Nat} {ts rest : List Token} {e : Expression} {k m : Nat}
    (h : Follows limit (.chain (level + 1)) ts rest e k m) :
    Follows limit (.chain level) ts rest e k m := by
  intro g d hd
  obtain ⟨first, mid, n₁, n₂, hk, hm, hfirst, hchain⟩ := h g d hd
  exact ⟨first, mid, n₁, n₂, hk, hm, hfirst, fun least hl => hchain least (by omega)⟩

theorem follows_operation {level : Nat} {s : Symbol} {op : BinaryOp} {ts us rest : List Token}
    {a b : Expression} {k m i n p : Nat} (known : (s, op) ∈ operators level) (hus : us ≠ [])
    (left : Follows limit (.chain level) ts (⟨.symbol s, p⟩ :: us) a k m)
    (right : Follows limit (.chain (level + 1)) us rest b i n) (hs : Stops (level + 1) rest) :
    Follows limit (.chain level) ts rest (.binary op a b) (k + 1) (max m (k + 1 + n)) := by
  intro g d hd
  obtain ⟨first, mid, n₁, n₂, hk, hm, hfirst, hchain⟩ := left g d hd
  refine ⟨first, mid, n₁, max n₂ (d + k + 1 + n), by omega, by omega, hfirst, fun least hl => ?_⟩
  refine (hchain least hl).trans fun hlimit => ?_
  exact chainOver_operation (by omega) known hl hus fun g d hd => right.binaryOver hs hd

theorem follows_signed {s : Symbol} {op : UnaryOp} {ts rest : List Token} {e : Expression}
    {k m p : Nat} (known : (s, op) ∈ signs) (hts : ts ≠ [])
    (h : Follows limit .operand ts rest e k m) :
    Follows limit .operand (⟨.symbol s, p⟩ :: ts) rest (.unary op e) 0 (m + 1) := by
  intro g d hd
  dsimp only
  rw [unaryOver_run, nextKind_cons, unaryOp?_of_mem known, advance_cons hts]
  have hoperand : Within limit (max (d + 1) (d + 1 + m))
      (nested limit (ofHeight limit g).unary ⟨ts, d⟩) (.ok e ⟨rest, d⟩) := by
    refine Within.nested fun hlimit => ?_
    obtain ⟨g, rfl⟩ : ∃ g', g = g' + 1 := ⟨g - 1, by omega⟩
    exact h g (d + 1) (by omega)
  refine (hoperand.bind (n := 0) fun _ => ?_).levels_eq (by omega)
  exact Within.refl (Nat.zero_le _)

theorem follows_unsigned {ts rest : List Token} {e : Expression} {k m : Nat}
    (h : Derives .suffixed ts rest e k m) (ih : Follows limit .suffixed ts rest e k m)
    (hs : Stops 8 rest) : Follows limit .operand ts rest e 0 m := by
  intro g d hd
  dsimp only
  rw [unaryOver_run, h.unaryOp?_eq_none (.inl rfl)]
  exact ih.postfixOver hs hd

theorem follows_bare {ts rest : List Token} {e : Expression} {k m : Nat}
    (h : Follows limit .primary ts rest e k m) : Follows limit .suffixed ts rest e 0 m := by
  intro g d hd
  exact ⟨e, rest, d + m, d, Nat.le_refl _, by omega, h g d hd, Within.refl (by omega)⟩

/-- One suffix more, given how it is read when its first token comes next. -/
theorem follows_suffix {ts us rest : List Token} {a b : Expression} {k m n : Nat} {suffix : Suffix}
    (h : Follows limit .suffixed ts us a k m) (known : suffix? (nextKind us) = some suffix)
    (run : ∀ g d, d + g = limit →
      Within limit (d + n) (suffixOf ((ofHeight limit g).expressionOver limit) a suffix ⟨us, d⟩)
        (.ok b ⟨rest, d⟩)) :
    Follows limit .suffixed ts rest b (k + 1) (max m (k + 1 + n)) := by
  intro g d hd
  obtain ⟨first, mid, n₁, n₂, hk, hm, hfirst, hchain⟩ := h g d hd
  refine ⟨first, mid, n₁, max n₂ (d + k + 1 + n), by omega, by omega, hfirst, ?_⟩
  exact hchain.trans fun hlimit => suffixesOver_suffix (by omega) known run

theorem suffixOf_name {expression : Parser Expression} {n : String} {e : Expression}
    {rest : List Token} {d p q : Nat} (hr : rest ≠ []) :
    suffixOf expression e .dot ⟨⟨.symbol .dot, p⟩ :: ⟨.name n, q⟩ :: rest, d⟩ =
      .ok (if n = "length" then .length e else .member e n) ⟨rest, d⟩ := by
  rw [suffixOf, advance_bind (List.cons_ne_nil _ _), dotSuffix, bind_ok (eat_other (by simp))]
  exact bind_ok (expectName_next hr)

theorem suffixOf_projection {expression : Parser Expression} {n : String} {e : Expression}
    {rest : List Token} {d p q r t : Nat} (hr : rest ≠ []) :
    suffixOf expression e .dot
      ⟨⟨.symbol .dot, p⟩ :: ⟨.symbol .star, q⟩ :: ⟨.symbol .dot, r⟩ :: ⟨.name n, t⟩ :: rest, d⟩ =
      .ok (.projection e n) ⟨rest, d⟩ := by
  rw [suffixOf, advance_bind (List.cons_ne_nil _ _), dotSuffix,
    bind_ok (eat_next (List.cons_ne_nil _ _))]
  refine (bind_ok (expect_next (List.cons_ne_nil _ _))).trans ?_
  exact bind_ok (expectName_next hr)

theorem follows_index {v : Value} {ts us rest : List Token} {e : Expression} {k m p : Nat}
    (h : Follows limit .suffixed ts (⟨.symbol .leftBracket, p⟩ :: us) e k m)
    (literal : LiteralIndex us v rest) :
    Follows limit .suffixed ts rest (.index e (.literal v)) (k + 1) (max m (k + 1 + 0)) := by
  refine follows_suffix h rfl fun g d hd => Within.of_eq (by omega) ?_
  have hus : us ≠ [] := by cases literal <;> exact List.cons_ne_nil _ _
  rw [suffixOf, advance_bind hus, bracketSuffix_run, literalIndex?_eq_some_iff.mpr literal]

theorem follows_filter {ts us rest : List Token} {a b : Expression} {k m i n p q : Nat}
    (hus : us ≠ []) (hr : rest ≠ [])
    (h : Follows limit .suffixed ts (⟨.symbol .leftBracket, p⟩ :: us) a k m)
    (other : ∀ v vs, ¬ LiteralIndex us v vs)
    (predicate : Follows limit .expression us (⟨.symbol .rightBracket, q⟩ :: rest) b i n) :
    Follows limit .suffixed ts rest (.filter a b.boundToItem) (k + 1) (max m (k + 1 + n)) := by
  refine follows_suffix h rfl fun g d hd => ?_
  rw [suffixOf, advance_bind hus, bracketSuffix_run, literalIndex?_eq_none_iff.mpr other]
  refine ((predicate g d hd).bind (n := 0) fun _ => ?_).levels_eq (by omega)
  refine Within.of_bind (expect_next hr) ?_
  exact Within.refl (Nat.zero_le _)

theorem follows_call {path : String} {ts us rest : List Token} {e : Expression}
    {args : List Expression} {k m i n p : Nat} (hus : us ≠ [])
    (h : Follows limit .suffixed ts (⟨.symbol .leftParen, p⟩ :: us) e k m)
    (callee : Dotted e path)
    (arguments : Follows limit (.listOrEmpty .rightParen) us rest (.array args) i n) :
    Follows limit .suffixed ts rest (.call path args) (k + 1) (max m (k + 1 + n)) := by
  refine follows_suffix h rfl fun g d hd => ?_
  rw [suffixOf, callSuffix_run (path?_eq_some_iff.mpr callee), advance_cons hus]
  refine ((arguments g d hd (.inl rfl) args .argumentEnd rfl).bind (n := 0)
    fun _ => ?_).levels_eq (by omega)
  exact Within.refl (Nat.zero_le _)

theorem follows_lambda {n : String} {ts rest : List Token} {e : Expression} {k m p q : Nat}
    (hts : ts ≠ []) (free : n ∉ keywords.map Prod.fst)
    (body : Follows limit .expression ts rest e k m) :
    Follows limit .primary (⟨.name n, p⟩ :: ⟨.symbol .arrow, q⟩ :: ts) rest (.lambda n e) 0 m := by
  intro g d hd
  dsimp only
  rw [primary_run, advance_cons (List.cons_ne_nil _ _)]
  dsimp only
  rw [nameOrLambda_run, keyword?_eq_none_iff.mpr free]
  dsimp only
  rw [if_pos (nextKind_cons _ _), advance_cons hts]
  refine ((body g d hd).bind (n := 0) fun _ => ?_).levels_eq (by omega)
  exact Within.refl (Nat.zero_le _)

theorem follows_group {ts rest : List Token} {e : Expression} {k m p q : Nat} (hts : ts ≠ [])
    (hr : rest ≠ []) (h : Follows limit .expression ts (⟨.symbol .rightParen, q⟩ :: rest) e k m) :
    Follows limit .primary (⟨.symbol .leftParen, p⟩ :: ts) rest e 0 m := by
  intro g d hd
  dsimp only
  rw [primary_run, advance_cons hts]
  refine ((h g d hd).bind (n := 0) fun _ => ?_).levels_eq (by omega)
  refine Within.of_bind (expect_next hr) ?_
  exact Within.refl (Nat.zero_le _)

theorem follows_array {ts rest : List Token} {es : List Expression} {k m p : Nat} (hts : ts ≠ [])
    (h : Follows limit (.listOrEmpty .rightBracket) ts rest (.array es) k m) :
    Follows limit .primary (⟨.symbol .leftBracket, p⟩ :: ts) rest (.array es) 0 m := by
  intro g d hd
  dsimp only
  rw [primary_run, advance_cons hts]
  refine ((h g d hd (.inr rfl) es .arrayEnd rfl).bind (n := 0)
    fun _ => ?_).levels_eq (by omega)
  exact Within.refl (Nat.zero_le _)

theorem follows_last {closing : Symbol} {ts rest : List Token} {e : Expression} {k m p : Nat}
    (hr : rest ≠ [])
    (h : Closing closing → Follows limit .expression ts (⟨.symbol closing, p⟩ :: rest) e k m) :
    Follows limit (.list closing) ts rest (.array [e]) 0 m := by
  intro g d hd hclosing es x rounds he hlength
  obtain rfl := Expression.array.inj he
  cases rounds with
  | nil => simp at hlength
  | cons _ rounds =>
    refine ((h hclosing g d hd).bind (n := 0) fun _ => ?_).levels_eq (by omega)
    refine Within.of_bind (eat_next hr) ?_
    exact Within.refl (Nat.zero_le _)

theorem follows_more {closing : Symbol} {ts us rest : List Token} {e : Expression}
    {es : List Expression} {k m i n p : Nat} (hus : us ≠ [])
    (first : Follows limit .expression ts (⟨.symbol .comma, p⟩ :: us) e k m)
    (others : Follows limit (.list closing) us rest (.array es) i n) :
    Follows limit (.list closing) ts rest (.array (e :: es)) 0 (max m n) := by
  intro g d hd hclosing es' x rounds he hlength
  obtain rfl := Expression.array.inj he
  cases rounds with
  | nil => simp at hlength
  | cons _ rounds =>
    refine ((first g d hd).bind (n := d + n) fun _ => ?_).levels_eq (by omega)
    refine Within.of_bind (eat_other fun hk => hclosing.ne_comma (TokenKind.symbol.inj hk).symm) ?_
    refine Within.of_bind (expect_next hus) ?_
    refine ((others g d hd hclosing es x rounds rfl (by simpa using hlength)).bind (n := 0)
      fun _ => ?_).levels_eq (by omega)
    exact Within.refl (Nat.zero_le _)

theorem follows_nonempty {closing : Symbol} {ts rest : List Token} {es : List Expression}
    {k m : Nat} (h : Derives (.list closing) ts rest (.array es) k m)
    (ih : Follows limit (.list closing) ts rest (.array es) k m) :
    Follows limit (.listOrEmpty closing) ts rest (.array es) 0 m := by
  intro g d hd hclosing es' x he
  obtain rfl := Expression.array.inj he
  have hne : nextKind ts ≠ .symbol closing :=
    fun hk => hclosing.not_first (h.first_symbol (by simp) hk)
  rw [itemsUntil_run, if_neg hne]
  exact ih g d hd hclosing es x ts rfl h.list_length_le

theorem Derives.follows {phrase : Phrase} {ts rest : List Token} {e : Expression} {k m : Nat}
    (h : Derives phrase ts rest e k m) (limit : Nat) (hr : rest ≠ []) (hs : Stops phrase.bound rest) :
    Follows limit phrase ts rest e k m := by
  induction h with
  | plain h ih => exact follows_plain (ih hr (hs.mono (by decide))) hs
  | conditional test consequent alternate iht ihc iha =>
    exact follows_conditional consequent.ne_nil alternate.ne_nil
      (iht (List.cons_ne_nil _ _) (stops_symbol rfl (by decide)))
      (ihc (List.cons_ne_nil _ _) (stops_closing rfl)) (iha hr hs)
  | single h ih => exact follows_single (ih hr hs)
  | tighter h ih => exact follows_tighter (ih hr (hs.mono (Nat.le_succ _)))
  | operation known left right ihl ihr =>
    exact follows_operation known right.ne_nil
      (ihl (List.cons_ne_nil _ _) (stops_symbol (mem_operators_level known) (Nat.lt_succ_self _)))
      (ihr hr (hs.mono (Nat.le_succ _))) hs
  | signed known h ih => exact follows_signed known h.ne_nil (ih hr hs)
  | unsigned h ih => exact follows_unsigned h (ih hr (hs.mono (Nat.le_succ _))) hs
  | bare h ih => exact follows_bare (ih hr hs)
  | length h ih =>
    exact follows_suffix (n := 0) (ih (List.cons_ne_nil _ _) (stops_symbol rfl (by decide))) rfl
      fun g d hd => Within.of_eq (by omega) (suffixOf_name hr)
  | member other h ih =>
    refine follows_suffix (n := 0) (ih (List.cons_ne_nil _ _) (stops_symbol rfl (by decide))) rfl
      fun g d hd => Within.of_eq (by omega) ?_
    rw [suffixOf_name hr, if_neg other]
  | projection h ih =>
    exact follows_suffix (n := 0) (ih (List.cons_ne_nil _ _) (stops_symbol rfl (by decide))) rfl
      fun g d hd => Within.of_eq (by omega) (suffixOf_projection hr)
  | index h literal ih =>
    exact follows_index (ih (List.cons_ne_nil _ _) (stops_symbol rfl (by decide))) literal
  | filter h other predicate ih ihp =>
    exact follows_filter predicate.ne_nil hr
      (ih (List.cons_ne_nil _ _) (stops_symbol rfl (by decide))) other
      (ihp (List.cons_ne_nil _ _) (stops_closing rfl))
  | call h callee arguments ih iha =>
    exact follows_call arguments.ne_nil (ih (List.cons_ne_nil _ _) (stops_symbol rfl (by decide)))
      callee (iha hr (hs.mono (Nat.le_succ _)))
  | number =>
    intro g d hd
    exact Within.of_eq (by omega) (by rw [primary_run, advance_cons hr]; rfl)
  | text =>
    intro g d hd
    exact Within.of_eq (by omega) (by rw [primary_run, advance_cons hr]; rfl)
  | keyword known =>
    intro g d hd
    refine Within.of_eq (by omega) ?_
    rw [primary_run, advance_cons hr]
    dsimp only
    rw [nameOrLambda_run, keyword?_eq_some_iff.mpr known]
  | name free =>
    intro g d hd
    refine Within.of_eq (by omega) ?_
    rw [primary_run, advance_cons hr]
    dsimp only
    rw [nameOrLambda_run, keyword?_eq_none_iff.mpr free]
    exact if_neg (hs.ne_arrow (Nat.le_refl _))
  | lambda free body closes ih => exact follows_lambda body.ne_nil free (ih hr closes.stops)
  | group h ih => exact follows_group h.ne_nil hr (ih (List.cons_ne_nil _ _) (stops_closing rfl))
  | array h ih => exact follows_array h.ne_nil (ih hr (hs.mono (Nat.le_succ _)))
  | empty =>
    intro g d hd _ es x he
    obtain rfl := Expression.array.inj he
    refine Within.of_eq (by omega) ?_
    rw [itemsUntil_run, nextKind_cons, if_pos rfl, advance_cons hr]
  | nonempty h ih => exact follows_nonempty h (ih hr hs)
  | last h ih =>
    exact follows_last hr fun hclosing =>
      ih (List.cons_ne_nil _ _) (stops_closing hclosing.strength?_eq_none)
  | more first others ihf iho =>
    exact follows_more others.ne_nil (ihf (List.cons_ne_nil _ _) (stops_closing rfl)) (iho hr hs)

end Grammar

end Stagewise
