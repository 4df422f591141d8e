import Stagewise.Proofs.Formula.Names
import Stagewise.Proofs.Grammar.Exactness

/-! What the parsers do with their state. A parser that succeeds has taken a token and is back at the
levels it was entered with; one that fails has given none of them away. The proofs run two parsers
side by side, so that they also show what a run does not depend on: the ground, and anything the
parsers would do where the state is not in order. -/

namespace Stagewise

namespace Grammar

open Level

/-- The cursor is on one of the tokens. -/
structure On (tokens : List Token) (s : State) : Prop where
  suffix : s.tokens <:+ tokens
  ended : Ended s.tokens

/-- What there is to say of the state in which a parser fails. -/
structure Onward (tokens : List Token) (s t : State) : Prop where
  on : On tokens t
  tokens_le : t.tokens.length ≤ s.tokens.length
  depth_le : s.depth ≤ t.depth

/-- No token has been given back, and the levels in use are the same. -/
structure Along (tokens : List Token) (s t : State) : Prop where
  on : On tokens t
  tokens_le : t.tokens.length ≤ s.tokens.length
  depth_eq : t.depth = s.depth

/-- What there is to say of the state in which a parser succeeds. -/
structure Ahead (tokens : List Token) (s t : State) : Prop where
  on : On tokens t
  tokens_lt : t.tokens.length < s.tokens.length
  depth_eq : t.depth = s.depth

section

variable {tokens : List Token} {s t u : State} {kind : TokenKind}

theorem Along.refl (h : On tokens s) : Along tokens s s :=
  ⟨h, Nat.le_refl _, rfl⟩

theorem Along.onward (h : Along tokens s t) : Onward tokens s t :=
  ⟨h.on, h.tokens_le, Nat.le_of_eq h.depth_eq.symm⟩

theorem Ahead.along (h : Ahead tokens s t) : Along tokens s t :=
  ⟨h.on, Nat.le_of_lt h.tokens_lt, h.depth_eq⟩

theorem Onward.trans (h : Onward tokens s t) (h' : Onward tokens t u) : Onward tokens s u :=
  ⟨h'.on, h'.tokens_le.trans h.tokens_le, h.depth_le.trans h'.depth_le⟩

theorem Along.ahead (h : Along tokens s t) (h' : Ahead tokens t u) : Ahead tokens s u :=
  ⟨h'.on, Nat.lt_of_lt_of_le h'.tokens_lt h.tokens_le, h'.depth_eq.trans h.depth_eq⟩

theorem Ahead.trans (h : Ahead tokens s t) (h' : Along tokens t u) : Ahead tokens s u :=
  ⟨h'.on, Nat.lt_of_le_of_lt h'.tokens_le h.tokens_lt, h'.depth_eq.trans h.depth_eq⟩

theorem next_eq (s : State) : s.next = nextKind s.tokens :=
  next_mk

theorem On.advance (h : On tokens s) (hk : s.next ≠ .finish) : Ahead tokens s s.advance := by
  obtain ⟨p, us, hs, hus, hadvance⟩ := h.ended.next (next_eq s).symm hk s.depth
  have hsuffix := h.suffix
  rw [hs] at hsuffix
  rw [show s.advance = ⟨us, s.depth⟩ from hadvance]
  exact ⟨⟨(List.suffix_cons _ _).trans hsuffix, hus⟩, hs ▸ Nat.lt_succ_self _, rfl⟩

end

/-- Both runs come to the same result, and it is as described. -/
structure Alike {α : Type} (r r' : EStateM.Result ParseError State α)
    (succeeded failed : State → Prop) : Prop where
  same : r' = r
  ok : ∀ a t, r = .ok a t → succeeded t
  error : ∀ e t, r = .error e t → failed t

namespace Alike

section

variable {α β : Type} {p p' : Parser α} {f f' : α → Parser β} {s t : State}
  {r r' : EStateM.Result ParseError State α} {succeeded succeeded' failed failed' : State → Prop}

theorem of_ok {a : α} (h : succeeded t) :
    Alike (.ok a t : EStateM.Result ParseError State α) (.ok a t) succeeded failed where
  same := rfl
  ok _ _ hrun := by
    cases hrun
    exact h
  error _ _ hrun := nomatch hrun

theorem of_error {e : ParseError} (h : failed t) :
    Alike (.error e t : EStateM.Result ParseError State α) (.error e t) succeeded failed where
  same := rfl
  ok _ _ hrun := nomatch hrun
  error _ _ hrun := by
    cases hrun
    exact h

theorem mono (h : Alike r r' succeeded' failed') (hok : ∀ t, succeeded' t → succeeded t)
    (herror : ∀ t, failed' t → failed t) : Alike r r' succeeded failed :=
  ⟨h.same, fun a t hrun => hok t (h.ok a t hrun), fun e t hrun => herror t (h.error e t hrun)⟩

theorem bind (h : Alike (p s) (p' s) succeeded' failed)
    (hf : ∀ a t, succeeded' t → Alike (f a t) (f' a t) succeeded failed) :
    Alike ((p >>= f) s) ((p' >>= f') s) succeeded failed := by
  cases hp : p s with
  | ok a t =>
    rw [bind_ok hp, bind_ok (h.same.trans hp)]
    exact hf a t (h.ok a t hp)
  | error e t =>
    rw [bind_error hp, bind_error (h.same.trans hp)]
    exact of_error (h.error e t hp)

theorem unexpected {x : Expected} {token : Option Token} (h : failed s) :
    Alike ((Grammar.unexpected x token : Parser α) s) (Grammar.unexpected x token s) succeeded
      failed := by
  unfold Grammar.unexpected
  split
  · exact of_error h
  · split <;> exact of_error h

end

section

variable {α β : Type} {tokens : List Token} {s t : State} {succeeded : State → Prop}
  {kind : TokenKind} {x : Expected}

theorem advance {f f' : Unit → Parser β} (ht : Along tokens s t) (hk : t.next ≠ .finish)
    (h : ∀ u, Ahead tokens s u → Alike (f () u) (f' () u) succeeded (Onward tokens s)) :
    Alike ((Grammar.advance >>= f) t) ((Grammar.advance >>= f') t) succeeded (Onward tokens s) :=
  h _ (ht.ahead (ht.on.advance hk))

theorem eat {f f' : Bool → Parser β} (ht : Along tokens s t) (hk : kind ≠ .finish)
    (htrue : ∀ u, Ahead tokens s u → Alike (f true u) (f' true u) succeeded (Onward tokens s))
    (hfalse : Alike (f false t) (f' false t) succeeded (Onward tokens s)) :
    Alike ((Grammar.eat kind >>= f) t) ((Grammar.eat kind >>= f') t) succeeded
      (Onward tokens s) := by
  by_cases h : nextKind t.tokens = kind
  · rw [bind_ok (eat_run.trans (if_pos h)), bind_ok (eat_run.trans (if_pos h))]
    exact htrue _ (ht.ahead (ht.on.advance (by rw [next_eq, h]; exact hk)))
  · rw [bind_ok (eat_other h), bind_ok (eat_other h)]
    exact hfalse

theorem expect {f f' : Unit → Parser β} (ht : Along tokens s t) (hk : kind ≠ .finish)
    (h : ∀ u, Ahead tokens s u → Alike (f () u) (f' () u) succeeded (Onward tokens s)) :
    Alike ((Grammar.expect kind x >>= f) t) ((Grammar.expect kind x >>= f') t) succeeded
      (Onward tokens s) := by
  have hexpect : Alike (Grammar.expect kind x t) (Grammar.expect kind x t) (Ahead tokens s)
      (Onward tokens s) :=
    eat ht hk (fun u hu => of_ok hu) (unexpected ht.onward)
  exact hexpect.bind fun _ => h

theorem expectName {f f' : String → Parser β} (ht : Along tokens s t)
    (h : ∀ n u, Ahead tokens s u → Alike (f n u) (f' n u) succeeded (Onward tokens s)) :
    Alike ((Grammar.expectName x >>= f) t) ((Grammar.expectName x >>= f') t) succeeded
      (Onward tokens s) := by
  have hname : Alike (Grammar.expectName x t) (Grammar.expectName x t) (Ahead tokens s)
      (Onward tokens s) := by
    rw [Grammar.expectName, get_bind]
    cases hn : t.next with
    | name n => exact advance ht (by simp [hn]) fun u hu => of_ok hu
    | _ => exact unexpected ht.onward
  exact hname.bind h

theorem after {r r' : EStateM.Result ParseError State α} (ht : Along tokens s t)
    (h : Alike r r' (Ahead tokens t) (Onward tokens t)) :
    Alike r r' (Ahead tokens s) (Onward tokens s) :=
  h.mono (fun _ => ht.ahead) fun _ => ht.onward.trans

theorem onward {r r' : EStateM.Result ParseError State α} (ht : Onward tokens s t)
    (h : Alike r r' (Onward tokens t) (Onward tokens t)) :
    Alike r r' (Onward tokens s) (Onward tokens s) :=
  h.mono (fun _ => ht.trans) fun _ => ht.trans

theorem enter {limit : Nat} {f f' : Unit → Parser β} (hs : On tokens s)
    (h : s.depth < limit → On tokens ⟨s.tokens, s.depth + 1⟩ →
      Alike (f () ⟨s.tokens, s.depth + 1⟩) (f' () ⟨s.tokens, s.depth + 1⟩)
        (Onward tokens ⟨s.tokens, s.depth + 1⟩) (Onward tokens ⟨s.tokens, s.depth + 1⟩)) :
    Alike ((Grammar.enter limit >>= f) s) ((Grammar.enter limit >>= f') s) (Onward tokens s)
      (Onward tokens s) := by
  have honward : Onward tokens s ⟨s.tokens, s.depth + 1⟩ :=
    ⟨⟨hs.suffix, hs.ended⟩, Nat.le_refl _, Nat.le_succ _⟩
  by_cases hl : limit < s.depth + 1
  · have herror : Grammar.enter limit s = .error (.tooDeep limit) ⟨s.tokens, s.depth + 1⟩ :=
      if_pos hl
    rw [bind_error herror, bind_error herror]
    exact of_error honward
  · have hok : Grammar.enter limit s = .ok () ⟨s.tokens, s.depth + 1⟩ := if_neg hl
    rw [bind_ok hok, bind_ok hok]
    exact (h (by omega) honward.on).onward honward

end

end Alike

/-- The two parsers do the same at that many levels, and keep the state in order. -/
def Strict {α : Type} (tokens : List Token) (depth : Nat) (p p' : Parser α) : Prop :=
  ∀ s, On tokens s → s.depth = depth → Alike (p s) (p' s) (Ahead tokens s) (Onward tokens s)

/-- The same for a loop, which ends with all the levels that its rounds have added. -/
def Loose {α : Type} (tokens : List Token) (depth : Nat) (p p' : Parser α) : Prop :=
  ∀ s, On tokens s → s.depth = depth → Alike (p s) (p' s) (Onward tokens s) (Onward tokens s)

section

variable {α β : Type} {tokens : List Token} {limit d : Nat} {p p' : Parser α}
  {s t : State} {succeeded : State → Prop}

theorem Strict.after (h : Strict tokens d p p') (ht : Along tokens s t) (hs : s.depth = d) :
    Alike (p t) (p' t) (Ahead tokens s) (Onward tokens s) :=
  (h t ht.on (ht.depth_eq.trans hs)).after ht

theorem Loose.after (h : Loose tokens d p p') (ht : Along tokens s t) (hs : s.depth = d) :
    Alike (p t) (p' t) (Onward tokens s) (Onward tokens s) :=
  (h t ht.on (ht.depth_eq.trans hs)).onward ht.onward

theorem Strict.bind {f f' : α → Parser β} (h : Strict tokens d p p') (ht : Along tokens s t)
    (hs : s.depth = d)
    (hf : ∀ a u, Ahead tokens s u → Alike (f a u) (f' a u) succeeded (Onward tokens s)) :
    Alike ((p >>= f) t) ((p' >>= f') t) succeeded (Onward tokens s) :=
  (h.after ht hs).bind hf

/-- The counter can always be lowered: the parser inside has not ended below its own level. -/
theorem Strict.nested (h : d < limit → Strict tokens (d + 1) p p') :
    Strict tokens d (nested limit p) (nested limit p') := by
  rintro s hs rfl
  have hon : On tokens ⟨s.tokens, s.depth + 1⟩ := ⟨hs.suffix, hs.ended⟩
  by_cases hl : limit < s.depth + 1
  · have herror : enter limit s = .error (.tooDeep limit) ⟨s.tokens, s.depth + 1⟩ := if_pos hl
    simp only [Grammar.nested, herror]
    exact .of_error ⟨hon, Nat.le_refl _, Nat.le_succ _⟩
  · have hok : enter limit s = .ok () ⟨s.tokens, s.depth + 1⟩ := if_neg hl
    have h := h (by omega) _ hon rfl
    simp only [Grammar.nested, hok, h.same]
    cases hp : p ⟨s.tokens, s.depth + 1⟩ with
    | ok a t =>
      have ht := h.ok a t hp
      exact .of_ok ⟨⟨ht.on.suffix, ht.on.ended⟩, ht.tokens_lt, by simp [State.leave, ht.depth_eq]⟩
    | error e t =>
      have ht := h.error e t hp
      exact .of_error ⟨⟨ht.on.suffix, ht.on.ended⟩, ht.tokens_le, Nat.le_pred_of_lt ht.depth_le⟩

theorem Loose.levelled (h : Loose tokens d p p') (ht : Ahead tokens s t) (hs : s.depth = d) :
    Alike (levelled p t) (levelled p' t) (Ahead tokens s) (Onward tokens s) := by
  rw [Grammar.levelled, Grammar.levelled, get_bind, get_bind]
  have hrun : Alike (p t) (p' t) (Onward tokens t) (Onward tokens s) :=
    (h t ht.on (ht.depth_eq.trans hs)).mono (fun _ => id) fun _ => ht.along.onward.trans
  exact hrun.bind fun a u hu =>
    .of_ok (ht.trans ⟨⟨hu.on.suffix, hu.on.ended⟩, hu.tokens_le, rfl⟩)

end

section

variable {tokens : List Token} {d : Nat} {e e' test test' : Parser Expression}
  {item item' : Parser Expression} {more more' : Parser (List Expression)} {closing : Symbol}
  {x : Expected} {s : State}

theorem Strict.conditional (htest : Strict tokens d test test') (he : Strict tokens d e e') :
    Strict tokens d (conditional test e) (conditional test' e') := by
  intro s hs hd
  refine htest.bind (.refl hs) hd fun test t ht => ?_
  refine .eat ht.along (by simp) (fun t ht => ?_) (.of_ok ht)
  refine he.bind ht.along hd fun consequent t ht => ?_
  refine .expect ht.along (by simp) fun t ht => ?_
  exact he.bind ht.along hd fun alternate t ht => .of_ok ht

/-- One round of the loop over items, and what the loop does after it. -/
def itemsRound (item : Parser Expression) (closing : Symbol) (expected : Expected)
    (more : Parser (List Expression)) : Parser (List Expression) := do
  let e ← item
  if ← eat (.symbol closing) then
    pure [e]
  else
    expect (.symbol .comma) expected
    let es ← more
    pure (e :: es)

theorem Strict.itemsRound (hitem : Strict tokens d item item') (hs : On tokens s) (hd : s.depth = d)
    (hmore : ∀ t, Ahead tokens s t →
      Alike (more t) (more' t) (Ahead tokens t) (Onward tokens t)) :
    Alike (itemsRound item closing x more s) (itemsRound item' closing x more' s) (Ahead tokens s)
      (Onward tokens s) := by
  refine hitem.bind (.refl hs) hd fun e t ht => ?_
  refine .eat ht.along (by simp) (fun t ht => .of_ok ht) ?_
  refine .expect ht.along (by simp) fun t ht => ?_
  exact ((hmore t ht).after ht.along).bind fun es t ht => .of_ok ht

/-- Enough rounds are as good as any others: every round takes a token. -/
theorem Strict.items (hitem : Strict tokens d item item') {rounds rounds' : List Token}
    (hs : On tokens s) (hd : s.depth = d) (hr : s.tokens.length ≤ rounds.length)
    (hr' : s.tokens.length ≤ rounds'.length) :
    Alike (items item closing x rounds s) (items item' closing x rounds' s) (Ahead tokens s)
      (Onward tokens s) := by
  have hpos := List.length_pos_iff.mpr hs.ended.ne_nil
  induction rounds generalizing rounds' s with
  | nil => exact absurd hr (Nat.not_le.mpr hpos)
  | cons token rounds ih =>
    cases rounds' with
    | nil => exact absurd hr' (Nat.not_le.mpr hpos)
    | cons token' rounds' =>
      refine hitem.itemsRound hs hd fun t ht => ?_
      have hlt := ht.tokens_lt
      simp only [List.length_cons] at hr hr'
      exact ih ht.on (ht.depth_eq.trans hd) (by omega) (by omega)
        (List.length_pos_iff.mpr ht.on.ended.ne_nil)

theorem Strict.itemsUntil (hitem : Strict tokens d item item') :
    Strict tokens d (itemsUntil item closing x) (itemsUntil item' closing x) := by
  intro s hs hd
  refine .eat (.refl hs) (by simp) (fun t ht => .of_ok ht) ?_
  exact hitem.items hs hd (Nat.le_refl _) (Nat.le_refl _)

theorem Strict.bracketSuffix (he : Strict tokens d e e') (object : Expression) :
    Strict tokens d (bracketSuffix e object) (bracketSuffix e' object) := by
  intro s hs hd
  rw [Grammar.bracketSuffix, Grammar.bracketSuffix, get_bind, get_bind]
  cases hi : literalIndex? s.tokens with
  | some literal =>
    obtain ⟨v, rest⟩ := literal
    have hv := literalIndex?_eq_some_iff.mp hi
    have hlt : rest.length < s.tokens.length := by
      generalize s.tokens = ts at hv
      cases hv <;> simp only [List.length_cons] <;> omega
    exact .of_ok ⟨⟨hv.suffix.trans hs.suffix, hv.ended hs.ended⟩, hlt, rfl⟩
  | none =>
    refine he.bind (.refl hs) hd fun predicate t ht => ?_
    exact .expect ht.along (by simp) fun t ht => .of_ok ht

theorem dotSuffix_strict (object : Expression) :
    Strict tokens d (dotSuffix object) (dotSuffix object) := by
  intro s hs hd
  refine .eat (.refl hs) (by simp) (fun t ht => ?_) ?_
  · refine .expect ht.along (by simp) fun t ht => ?_
    exact .expectName ht.along fun key t ht => .of_ok ht
  · exact .expectName (.refl hs) fun property t ht => .of_ok ht

theorem Strict.suffixOf (he : Strict tokens d e e') (object : Expression) {suffix : Suffix}
    (hs : On tokens s) (hd : s.depth = d) (hk : suffix? s.next = some suffix) :
    Alike (suffixOf e object suffix s) (suffixOf e' object suffix s) (Ahead tokens s)
      (Onward tokens s) := by
  have hf : s.next ≠ .finish := by
    intro hf
    rw [hf] at hk
    cases hk
  cases suffix with
  | dot =>
    refine .advance (.refl hs) hf fun t ht => ?_
    exact (dotSuffix_strict object).after ht.along hd
  | bracket =>
    refine .advance (.refl hs) hf fun t ht => ?_
    exact (he.bracketSuffix object).after ht.along hd
  | call =>
    rw [Grammar.suffixOf, Grammar.suffixOf, callSuffix, callSuffix, get_bind, get_bind]
    cases object.path? with
    | none => exact .of_error (Along.refl hs).onward
    | some path =>
      refine .advance (.refl hs) hf fun t ht => ?_
      exact he.itemsUntil.bind ht.along hd fun args t ht => .of_ok ht

theorem Strict.nameOrLambda (he : Strict tokens d e e') (n : String) {t : State} (hd : s.depth = d)
    (ht : Ahead tokens s t) :
    Alike (nameOrLambda e n t) (nameOrLambda e' n t) (Ahead tokens s) (Onward tokens s) := by
  rw [Grammar.nameOrLambda, Grammar.nameOrLambda]
  cases keyword? n with
  | some v => exact .of_ok ht
  | none =>
    refine .eat ht.along (by simp) (fun t ht => ?_) (.of_ok ht)
    exact he.bind ht.along hd fun body t ht => .of_ok ht

theorem Strict.primary (he : Strict tokens d e e') :
    Strict tokens d (primary e) (primary e') := by
  rintro ⟨ts, _⟩ hs rfl
  cases ts with
  | nil => exact absurd rfl hs.ended.ne_nil
  | cons token us =>
    rw [primary_run, primary_run]
    by_cases hk : token.kind = .finish
    · obtain ⟨p, hus⟩ := hs.ended.eq_finish hk
      cases hus
      exact .unexpected (Along.refl hs).onward
    · have ht := hs.advance hk
      obtain ⟨kind, p⟩ := token
      cases kind with
      | number | text => exact .of_ok ht
      | name n => exact he.nameOrLambda n rfl ht
      | finish => exact absurd rfl hk
      | symbol symbol =>
        cases symbol with
        | leftParen =>
          refine he.bind ht.along rfl fun inner t ht => ?_
          exact .expect ht.along (by simp) fun t ht => .of_ok ht
        | leftBracket => exact he.itemsUntil.bind ht.along rfl fun es t ht => .of_ok ht
        | _ => exact .unexpected ht.along.onward

end

/-- The parsers of two towers do the same at that many levels, and keep the state in order. -/
structure LevelsAlike (tokens : List Token) (depth : Nat) (l l' : Level) : Prop where
  expression : Strict tokens depth l.expression l'.expression
  binary : ∀ least, Strict tokens depth (l.binary least) (l'.binary least)
  chain : ∀ least left, Loose tokens depth (l.chain least left) (l'.chain least left)
  unary : Strict tokens depth l.unary l'.unary
  suffixes : ∀ object, Loose tokens depth (l.suffixes object) (l'.suffixes object)

namespace LevelsAlike

variable {tokens : List Token} {limit d : Nat} {below below' : Level}

theorem expressionOver (hb : d < limit → LevelsAlike tokens (d + 1) below below') :
    Strict tokens d (below.expressionOver limit) (below'.expressionOver limit) :=
  .nested fun hd => ((hb hd).binary 1).conditional (hb hd).expression

theorem suffixesOver (hb : d < limit → LevelsAlike tokens (d + 1) below below')
    (object : Expression) :
    Loose tokens d (below.suffixesOver limit object) (below'.suffixesOver limit object) := by
  rintro s hs rfl
  rw [Level.suffixesOver, Level.suffixesOver, get_bind, get_bind]
  cases hk : suffix? s.next with
  | none => exact .of_ok (Along.refl hs).onward
  | some suffix =>
    refine .enter hs fun hd hon => ?_
    refine .bind ((hb hd).expression.suffixOf object hon rfl hk) fun object t ht => ?_
    exact ((hb hd).suffixes object).after ht.along rfl

theorem postfixOver (hb : d < limit → LevelsAlike tokens (d + 1) below below') :
    Strict tokens d (below.postfixOver limit) (below'.postfixOver limit) := by
  intro s hs hd
  refine (expressionOver hb).primary.bind (.refl hs) hd fun object t ht => ?_
  exact (suffixesOver hb object).levelled ht hd

theorem unaryOver (hb : d < limit → LevelsAlike tokens (d + 1) below below') :
    Strict tokens d (below.unaryOver limit) (below'.unaryOver limit) := by
  intro s hs hd
  rw [Level.unaryOver, Level.unaryOver, get_bind, get_bind]
  cases hk : unaryOp? s.next with
  | none => exact postfixOver hb s hs hd
  | some op =>
    refine .advance (.refl hs) (fun hf => ?_) fun t ht => ?_
    · rw [hf] at hk
      cases hk
    · have hoperand : Strict tokens d (nested limit below.unary) (nested limit below'.unary) :=
        .nested fun hd => (hb hd).unary
      exact hoperand.bind ht.along hd fun operand t ht => .of_ok ht

theorem chainOver (hb : d < limit → LevelsAlike tokens (d + 1) below below') (least : Nat)
    (left : Expression) :
    Loose tokens d (below.chainOver limit least left) (below'.chainOver limit least left) := by
  rintro s hs rfl
  rw [Level.chainOver, Level.chainOver, get_bind, get_bind]
  cases hk : binaryOp? s.next with
  | none => exact .of_ok (Along.refl hs).onward
  | some op =>
    dsimp only
    split
    · exact .of_ok (Along.refl hs).onward
    · refine .advance (.refl hs) (fun hf => ?_) fun t ht => ?_
      · rw [hf] at hk
        cases hk
      · refine .onward ht.along.onward (.enter ht.on fun hd hon => ?_)
        rw [ht.depth_eq] at hd
        have hdepth : t.depth + 1 = s.depth + 1 := congrArg (· + 1) ht.depth_eq
        refine ((hb hd).binary _).bind (.refl hon) hdepth fun right u hu => ?_
        exact ((hb hd).chain _ _).after hu.along hdepth

theorem binaryOver (hb : d < limit → LevelsAlike tokens (d + 1) below below') (least : Nat) :
    Strict tokens d (below.binaryOver limit least) (below'.binaryOver limit least) := by
  intro s hs hd
  refine (unaryOver hb).bind (.refl hs) hd fun left t ht => ?_
  exact (chainOver hb least left).levelled ht hd

theorem raised (hb : d < limit → LevelsAlike tokens (d + 1) below below') :
    LevelsAlike tokens d (below.raised limit) (below'.raised limit) :=
  ⟨expressionOver hb, binaryOver hb, chainOver hb, unaryOver hb, suffixesOver hb⟩

theorem ground (tokens : List Token) (limit d : Nat) :
    LevelsAlike tokens d (Level.ground limit) (Level.ground limit) where
  expression _ hs _ := .of_error (Along.refl hs).onward
  binary _ _ hs _ := .of_error (Along.refl hs).onward
  chain _ _ _ hs _ := .of_error (Along.refl hs).onward
  unary _ hs _ := .of_error (Along.refl hs).onward
  suffixes _ _ hs _ := .of_error (Along.refl hs).onward

theorem ofHeight (tokens : List Token) (limit height d : Nat) :
    LevelsAlike tokens d (Level.ofHeight limit height) (Level.ofHeight limit height) := by
  induction height generalizing d with
  | zero => exact ground tokens limit d
  | succ height ih => exact raised fun _ => ih (d + 1)

/-- Two towers that are built alike do the same when they are as high as there are levels left,
whatever they stand on. -/
theorem of_height {l l' : Nat → Level} {height : Nat}
    (hstep : ∀ n d, (d < limit → LevelsAlike tokens (d + 1) (l n) (l' n)) →
      LevelsAlike tokens d (l (n + 1)) (l' (n + 1)))
    (h : limit ≤ d + height) : LevelsAlike tokens d (l (height + 1)) (l' (height + 1)) := by
  induction height generalizing d with
  | zero => exact hstep 0 d fun hd => absurd hd (by omega)
  | succ height ih => exact hstep (height + 1) d fun _ => ih (by omega)

end LevelsAlike

/-- The parser with a check on the state where it is entered and where it is left. A state that does
not pass raises the alarm. -/
def watched {α : Type} (check : State → Bool) (alarm : ParseError) (p : Parser α) : Parser α :=
  fun s =>
    if check s then
      match p s with
      | .ok a t => if check t then .ok a t else .error alarm t
      | .error e t => .error (if check t then e else alarm) t
    else .error alarm s

/-- A tower over any base, with a watch on each parser. -/
def watchedOver (check : State → Bool) (alarm : ParseError) (limit : Nat) (base : Level) :
    Nat → Level
  | 0 => base
  | height + 1 =>
    let l := (watchedOver check alarm limit base height).raised limit
    { expression := watched check alarm l.expression
      binary := fun least => watched check alarm (l.binary least)
      chain := fun least left => watched check alarm (l.chain least left)
      unary := watched check alarm l.unary
      suffixes := fun object => watched check alarm (l.suffixes object) }

section

variable {α : Type} {tokens : List Token} {limit d height : Nat} {check : State → Bool}
  {alarm : ParseError} {base : Level} {p p' : Parser α} {s : State}
  {succeeded failed : State → Prop}

theorem Alike.watched (hcheck : ∀ s, On tokens s → check s = true) (hs : On tokens s)
    (hok : ∀ t, succeeded t → On tokens t) (herror : ∀ t, failed t → On tokens t)
    (h : Alike (p s) (p' s) succeeded failed) :
    Alike (p s) (watched check alarm p' s) succeeded failed := by
  refine ⟨?_, h.ok, h.error⟩
  rw [Grammar.watched, if_pos (hcheck s hs), h.same]
  cases hp : p s with
  | ok a t => simp [hcheck t (hok t (h.ok a t hp))]
  | error e t => simp [hcheck t (herror t (h.error e t hp))]

theorem Strict.watched (hcheck : ∀ s, On tokens s → check s = true) (h : Strict tokens d p p') :
    Strict tokens d p (watched check alarm p') :=
  fun s hs hd => (h s hs hd).watched hcheck hs (fun _ => Ahead.on) fun _ => Onward.on

theorem Loose.watched (hcheck : ∀ s, On tokens s → check s = true) (h : Loose tokens d p p') :
    Loose tokens d p (watched check alarm p') :=
  fun s hs hd => (h s hs hd).watched hcheck hs (fun _ => Onward.on) fun _ => Onward.on

theorem watchedOver_alike (hcheck : ∀ s, On tokens s → check s = true)
    (h : limit ≤ d + height) : LevelsAlike tokens d (ofHeight limit (height + 1))
      (watchedOver check alarm limit base (height + 1)) := by
  have hstep (n d : Nat) (hb : d < limit → LevelsAlike tokens (d + 1) (ofHeight limit n)
      (watchedOver check alarm limit base n)) : LevelsAlike tokens d (ofHeight limit (n + 1))
        (watchedOver check alarm limit base (n + 1)) := by
    have hraised := LevelsAlike.raised hb
    exact ⟨hraised.expression.watched hcheck, fun least => (hraised.binary least).watched hcheck,
      fun least left => (hraised.chain least left).watched hcheck, hraised.unary.watched hcheck,
      fun object => (hraised.suffixes object).watched hcheck⟩
  exact .of_height hstep h

end

theorem Ended.of_suffix {ts tokens : List Token} (h : Ended tokens) (hs : ts <:+ tokens)
    (hne : ts ≠ []) : Ended ts := by
  induction tokens with
  | nil => exact absurd h id
  | cons token tokens ih =>
    rcases List.suffix_cons_iff.mp hs with rfl | hsuffix
    · exact h
    · refine ih (h.tail fun hk => hne ?_) hsuffix
      obtain ⟨p, heq⟩ := h.eq_finish hk
      cases heq
      exact List.suffix_nil.mp hsuffix

theorem on_drop {tokens : List Token} {cursor : Nat} (h : Ended tokens)
    (hc : cursor < tokens.length) (depth : Nat) : On tokens ⟨tokens.drop cursor, depth⟩ where
  suffix := List.drop_suffix _ _
  ended := h.of_suffix (List.drop_suffix _ _) (List.drop_eq_nil_iff.not.mpr (Nat.not_le.mpr hc))

theorem On.exists_cursor {tokens : List Token} {s : State} (h : On tokens s) :
    ∃ cursor < tokens.length, s.tokens.length = tokens.length - cursor ∧
      s = ⟨tokens.drop cursor, s.depth⟩ := by
  have hpos := List.length_pos_iff.mpr h.ended.ne_nil
  have hle := h.suffix.length_le
  refine ⟨tokens.length - s.tokens.length, by omega, by omega, ?_⟩
  rw [← List.suffix_iff_eq_drop.mp h.suffix]

/-- Wherever the parser is started on the tokens, and at whatever level: when it succeeds the cursor
has moved on to another of them and the counter is as it was, and when it fails the cursor is still on
one of them and the counter is not lower. -/
def Keeps {α : Type} (tokens : List Token) (p : Parser α) : Prop :=
  ∀ cursor < tokens.length, ∀ depth,
    match p ⟨tokens.drop cursor, depth⟩ with
    | .ok _ t => ∃ next, cursor < next ∧ next < tokens.length ∧ t = ⟨tokens.drop next, depth⟩
    | .error _ t => ∃ next, cursor ≤ next ∧ next < tokens.length ∧
      ∃ levels, depth ≤ levels ∧ t = ⟨tokens.drop next, levels⟩

/-- After the parser, one level further in, the counter can be lowered by one. -/
def Lowers {α : Type} (tokens : List Token) (p : Parser α) : Prop :=
  ∀ cursor < tokens.length, ∀ depth,
    match p ⟨tokens.drop cursor, depth + 1⟩ with
    | .ok _ t | .error _ t => t.leave.depth + 1 = t.depth

/-- The parsers of the two levels do the same on every token. -/
def SameOn (tokens : List Token) (depth : Nat) (l l' : Level) : Prop :=
  ∀ cursor < tokens.length,
    let s : State := ⟨tokens.drop cursor, depth⟩
    l.expression s = l'.expression s ∧ (∀ least, l.binary least s = l'.binary least s) ∧
      (∀ least left, l.chain least left s = l'.chain least left s) ∧ l.unary s = l'.unary s ∧
      ∀ object, l.suffixes object s = l'.suffixes object s

section

variable {α : Type} {tokens : List Token} {p p' : Parser α}

theorem Strict.keeps (h : ∀ depth, Strict tokens depth p p') (hts : Ended tokens) :
    Keeps tokens p := by
  intro cursor hc depth
  have hrun := h depth _ (on_drop hts hc depth) rfl
  split
  · rename_i a t hok
    have ht := hrun.ok a t hok
    obtain ⟨next, hnext, hlength, heq⟩ := ht.on.exists_cursor
    have hlt := ht.tokens_lt
    rw [List.length_drop] at hlt
    exact ⟨next, by omega, hnext, heq.trans (congrArg (State.mk _) ht.depth_eq)⟩
  · rename_i e t herror
    have ht := hrun.error e t herror
    obtain ⟨next, hnext, hlength, heq⟩ := ht.on.exists_cursor
    have hle := ht.tokens_le
    rw [List.length_drop] at hle
    exact ⟨next, by omega, hnext, t.depth, ht.depth_le, heq⟩

theorem Keeps.lowers (h : Keeps tokens p) : Lowers tokens p := by
  intro cursor hc depth
  have hrun := h cursor hc (depth + 1)
  split
  · rename_i a t hok
    rw [hok] at hrun
    obtain ⟨-, -, -, rfl⟩ := hrun
    rfl
  · rename_i e t herror
    rw [herror] at hrun
    obtain ⟨-, -, -, levels, hlevels, rfl⟩ := hrun
    exact Nat.succ_pred_eq_of_pos (Nat.lt_of_lt_of_le (Nat.succ_pos _) hlevels)

theorem LevelsAlike.sameOn {depth : Nat} {l l' : Level} (h : LevelsAlike tokens depth l l')
    (hts : Ended tokens) : SameOn tokens depth l l' := by
  intro cursor hc
  have hon := on_drop hts hc depth
  exact ⟨(h.expression _ hon rfl).same.symm, fun least => (h.binary least _ hon rfl).same.symm,
    fun least left => (h.chain least left _ hon rfl).same.symm, (h.unary _ hon rfl).same.symm,
    fun object => (h.suffixes object _ hon rfl).same.symm⟩

/-- The loop over items runs for as long as there are items: its rounds are never used up. -/
theorem Strict.items_eq {depth : Nat} {item : Parser Expression} {closing : Symbol} {x : Expected}
    {s : State} (h : Strict tokens depth item item) (hs : On tokens s) (hd : s.depth = depth) :
    Grammar.items item closing x s.tokens s =
      Grammar.itemsRound item closing x (fun t => Grammar.items item closing x t.tokens t) s := by
  obtain ⟨token, rounds, hrounds⟩ := List.exists_cons_of_ne_nil hs.ended.ne_nil
  have hmore : ∀ t, Ahead tokens s t →
      Alike (Grammar.items item closing x rounds t) (Grammar.items item closing x t.tokens t)
        (Ahead tokens t) (Onward tokens t) := by
    intro t ht
    have hlt := ht.tokens_lt
    rw [hrounds, List.length_cons] at hlt
    exact h.items ht.on (ht.depth_eq.trans hd) (by omega) (Nat.le_refl _)
  have hround : Alike (Grammar.itemsRound item closing x (Grammar.items item closing x rounds) s)
      (Grammar.itemsRound item closing x (fun t => Grammar.items item closing x t.tokens t) s)
      (Ahead tokens s) (Onward tokens s) := h.itemsRound hs hd hmore
  rw [hround.same, hrounds]
  rfl

end

/-- A whole formula, read by the parsers of a level. -/
def formulaOver (l : Level) : Parser Expression := do
  let e ← l.expression
  expect .finish .endOfExpression
  pure e

/-- A whole formula leaves the cursor on the last token, which is not taken. -/
theorem LevelsAlike.formula {tokens : List Token} {l l' : Level} (h : LevelsAlike tokens 0 l l')
    (hts : Ended tokens) :
    Alike (formulaOver l ⟨tokens, 0⟩) (formulaOver l' ⟨tokens, 0⟩)
      (fun t => t = ⟨tokens.drop (tokens.length - 1), 0⟩) (On tokens) := by
  have he := h.expression ⟨tokens, 0⟩ ⟨List.suffix_refl _, hts⟩ rfl
  refine .bind (he.mono (fun _ => id) fun _ => Onward.on) fun e t ht => ?_
  by_cases hk : nextKind t.tokens = .finish
  · obtain ⟨p, heq⟩ := ht.on.ended.eq_finish hk
    obtain ⟨next, hnext, hlength, hstate⟩ := ht.on.exists_cursor
    rw [heq, List.length_singleton] at hlength
    have hcursor : next = tokens.length - 1 := by omega
    obtain ⟨ts, depth⟩ := t
    obtain rfl : ts = [⟨.finish, p⟩] := heq
    obtain rfl : depth = 0 := ht.depth_eq
    exact .of_ok (hcursor ▸ hstate)
  · have hexpect : expect .finish .endOfExpression t =
        unexpected .endOfExpression t.tokens.head? t := by
      rw [expect, bind_ok (eat_other hk)]
      rfl
    have hend : Alike (expect .finish .endOfExpression t) (expect .finish .endOfExpression t)
        (fun _ => False) (On tokens) := hexpect ▸ .unexpected ht.on
    exact hend.bind fun _ _ h => h.elim

/-- On tokens that end with the only end, every parser keeps the state in order. A tower as high as
there are levels left does what a higher one does on any other ground, and no parser in it is ever
entered or left with the cursor beside the tokens. -/
theorem parsers_keep_state {tokens : List Token} (hts : Ended tokens) :
    (∀ height,
      let below := ofHeight maxDepth height
      let inside := conditional (below.binary 1) below.expression
      (Keeps tokens (below.expressionOver maxDepth) ∧ Keeps tokens inside ∧
        (∀ least, Keeps tokens (below.binaryOver maxDepth least)) ∧
        Keeps tokens (below.unaryOver maxDepth) ∧ Keeps tokens (below.postfixOver maxDepth) ∧
        Keeps tokens (primary (below.expressionOver maxDepth)) ∧
        (∀ object, Keeps tokens (bracketSuffix below.expression object)) ∧
        Keeps tokens (itemsUntil below.expression .rightParen .argumentEnd)) ∧
      (Lowers tokens inside ∧ Lowers tokens below.unary) ∧
      ∀ closing x, ∀ cursor < tokens.length, ∀ depth,
        let s : State := ⟨tokens.drop cursor, depth⟩
        let loop : Parser (List Expression) :=
          fun t => items below.expression closing x t.tokens t
        loop s = itemsRound below.expression closing x loop s) ∧
    (∀ check alarm base, (∀ cursor < tokens.length, ∀ depth,
        check ⟨tokens.drop cursor, depth⟩ = true) →
      (∀ depth height, maxDepth ≤ depth + height →
        SameOn tokens depth (ofHeight maxDepth (height + 1))
          (watchedOver check alarm maxDepth base (height + 1))) ∧
      formulaOver (watchedOver check alarm maxDepth base (maxDepth + 1)) ⟨tokens, 0⟩ =
        formula maxDepth ⟨tokens, 0⟩) ∧
    match formula maxDepth ⟨tokens, 0⟩ with
    | .ok _ t => t = ⟨tokens.drop (tokens.length - 1), 0⟩
    | .error _ t => ∃ next < tokens.length, ∃ levels, t = ⟨tokens.drop next, levels⟩ := by
  refine ⟨fun height => ?_, fun check alarm base hcheck => ?_, ?_⟩
  · have hbelow := LevelsAlike.ofHeight tokens maxDepth height
    have hover d : Strict tokens d (expressionOver maxDepth _) (expressionOver maxDepth _) :=
      LevelsAlike.expressionOver fun _ => hbelow (d + 1)
    have hinside d := ((hbelow d).binary 1).conditional (hbelow d).expression
    refine ⟨⟨Strict.keeps hover hts, Strict.keeps hinside hts, fun least => ?_, ?_, ?_,
      Strict.keeps (fun d => (hover d).primary) hts, fun object => ?_, ?_⟩, ⟨?_, ?_⟩, ?_⟩
    · exact Strict.keeps (fun d => LevelsAlike.binaryOver (fun _ => hbelow (d + 1)) least) hts
    · exact Strict.keeps (fun d => LevelsAlike.unaryOver fun _ => hbelow (d + 1)) hts
    · exact Strict.keeps (fun d => LevelsAlike.postfixOver fun _ => hbelow (d + 1)) hts
    · exact Strict.keeps (fun d => (hbelow d).expression.bracketSuffix object) hts
    · exact Strict.keeps (fun d => (hbelow d).expression.itemsUntil) hts
    · exact (Strict.keeps hinside hts).lowers
    · exact (Strict.keeps (fun d => (hbelow d).unary) hts).lowers
    · intro closing x cursor hc depth
      exact (hbelow depth).expression.items_eq (on_drop hts hc depth) rfl
  · have hcheck : ∀ s, On tokens s → check s = true := by
      intro s hs
      obtain ⟨cursor, hc, -, heq⟩ := hs.exists_cursor
      exact heq ▸ hcheck cursor hc s.depth
    refine ⟨fun depth height hh => (watchedOver_alike hcheck hh).sameOn hts, ?_⟩
    exact ((watchedOver_alike hcheck (Nat.le_add_left _ _)).formula hts).same
  · have hrun := (LevelsAlike.ofHeight tokens maxDepth (maxDepth + 1) 0).formula hts
    split
    · exact hrun.ok _ _ ‹_›
    · obtain ⟨next, hnext, -, heq⟩ := (hrun.error _ _ ‹_›).exists_cursor
      exact ⟨next, hnext, _, heq⟩

/-- In `f(-a` the arguments are not closed. The watch lets the run pass that fails there, and any
other in which sixty levels are in use already. -/
theorem open_call_keeps_state :
    let tokens : List Token := [⟨.name "f", 0⟩, ⟨.symbol .leftParen, 1⟩, ⟨.symbol .minus, 2⟩,
      ⟨.name "a", 3⟩, ⟨.finish, 4⟩]
    let check : State → Bool := fun s => decide (0 < s.tokens.length ∧ s.tokens.length ≤ 5)
    let tower := watchedOver check (.tooDeep 0) maxDepth (ground 0)
    Ended tokens ∧
      Keeps tokens (itemsUntil (ofHeight maxDepth 64).expression .rightParen .argumentEnd) ∧
      SameOn tokens 60 (ofHeight maxDepth 5) (tower 5) ∧
      formulaOver (tower 65) ⟨tokens, 0⟩ = formula maxDepth ⟨tokens, 0⟩ := by
  intro tokens check tower
  have hts : Ended tokens := by simp [tokens, Ended]
  obtain ⟨hkeeps, hwatched, -⟩ := parsers_keep_state hts
  obtain ⟨⟨-, -, -, -, -, -, -, harguments⟩, -⟩ := hkeeps 64
  have hcheck : ∀ cursor < tokens.length, ∀ depth, check ⟨tokens.drop cursor, depth⟩ = true := by
    intro cursor hc depth
    have hlength : tokens.length = 5 := rfl
    simp only [check, decide_eq_true_eq, List.length_drop]
    omega
  obtain ⟨hsame, hformula⟩ := hwatched check (.tooDeep 0) (ground 0) hcheck
  exact ⟨hts, harguments, hsame 60 4 (by decide), hformula⟩

end Grammar

end Stagewise
