import Stagewise.Proofs.Grammar.Run

/-! What the parsers read is derived. An arrow function is only derived before something that closes
it, which its parser does not look at: so a parser derives what it has read as soon as the token
after it is one that can follow a phrase, and every parser that goes on sees to that. -/

namespace Stagewise

namespace Grammar

open Level

/-- The last token and no other is the end. -/
def Ended : List Token → Prop
  | [] => False
  | [token] => token.kind = .finish
  | token :: next :: ts => token.kind ≠ .finish ∧ Ended (next :: ts)

theorem Ended.tail {token : Token} {ts : List Token} (h : Ended (token :: ts))
    (hk : token.kind ≠ .finish) : Ended ts := by
  cases ts with
  | nil => exact absurd h hk
  | cons next ts => exact h.2

theorem Ended.ne_nil {ts : List Token} (h : Ended ts) : ts ≠ [] := by
  rintro rfl
  exact h

/-- A token that is not the end has others after it. -/
theorem Ended.next {ts : List Token} {kind : TokenKind} (h : Ended ts) (hk : nextKind ts = kind)
    (hf : kind ≠ .finish) (d : Nat) :
    ∃ p us, ts = ⟨kind, p⟩ :: us ∧ Ended us ∧ State.advance ⟨ts, d⟩ = ⟨us, d⟩ := by
  cases ts with
  | nil => exact absurd h id
  | cons token us =>
    obtain rfl : token.kind = kind := hk
    have hus := h.tail hf
    exact ⟨token.position, us, rfl, hus, advance_cons hus.ne_nil⟩

theorem Ended.eq_finish {ts : List Token} (h : Ended ts) (hk : nextKind ts = .finish) :
    ∃ p, ts = [⟨.finish, p⟩] := by
  match ts with
  | [] => exact absurd h id
  | [⟨kind, p⟩] =>
    obtain rfl : kind = .finish := hk
    exact ⟨p, rfl⟩
  | token :: next :: ts => exact absurd hk h.1

section

variable {α : Type} {limit d : Nat} {q : Parser α} {a : α} {ts : List Token} {t : State}

theorem of_enter {u : Unit} (h : enter limit ⟨ts, d⟩ = .ok u t) :
    d + 1 ≤ limit ∧ t = ⟨ts, d + 1⟩ := by
  by_cases hl : limit < d + 1
  · rw [show enter limit ⟨ts, d⟩ = _ from if_pos hl] at h
    cases h
  · rw [show enter limit ⟨ts, d⟩ = _ from if_neg hl] at h
    cases h
    exact ⟨Nat.not_lt.mp hl, rfl⟩

theorem of_nested (h : nested limit q ⟨ts, d⟩ = .ok a t) :
    d + 1 ≤ limit ∧ ∃ t', q ⟨ts, d + 1⟩ = .ok a t' ∧ t = t'.leave := by
  cases he : enter limit ⟨ts, d⟩ with
  | error e s =>
    simp only [nested, he] at h
    cases h
  | ok u s =>
    obtain ⟨hd, rfl⟩ := of_enter he
    cases hq : q ⟨ts, d + 1⟩ with
    | error e t' =>
      simp only [nested, he, hq] at h
      cases h
    | ok b t' =>
      simp only [nested, he, hq] at h
      cases h
      exact ⟨hd, t', rfl, rfl⟩

theorem of_levelled (h : levelled q ⟨ts, d⟩ = .ok a t) :
    ∃ t', q ⟨ts, d⟩ = .ok a t' ∧ t = ⟨t'.tokens, d⟩ := by
  rw [levelled, get_bind] at h
  obtain ⟨b, t', hq, h⟩ := ok_of_bind h
  cases h
  exact ⟨t', hq, rfl⟩

theorem of_unexpected {x : Expected} {token : Option Token} {s : State} :
    (unexpected x token : Parser α) s ≠ .ok a t := by
  intro h
  unfold unexpected at h
  split at h
  · cases h
  · split at h <;> cases h

theorem of_expect {kind : TokenKind} {x : Expected} {u : Unit}
    (h : expect kind x ⟨ts, d⟩ = .ok u t) :
    nextKind ts = kind ∧ t = State.advance ⟨ts, d⟩ := by
  by_cases hk : nextKind ts = kind
  · rw [expect, bind_ok (eat_run.trans (if_pos hk))] at h
    cases h
    exact ⟨hk, rfl⟩
  · rw [expect, bind_ok (eat_other hk)] at h
    exact absurd h of_unexpected

theorem of_expectName {x : Expected} {n : String} (h : expectName x ⟨ts, d⟩ = .ok n t) :
    nextKind ts = .name n ∧ t = State.advance ⟨ts, d⟩ := by
  rw [expectName, get_bind, next_mk] at h
  cases hk : nextKind ts with
  | name m =>
    rw [hk] at h
    cases h
    exact ⟨rfl, rfl⟩
  | _ =>
    rw [hk] at h
    exact absurd h of_unexpected

end

/-- How weak the token after a phrase is when its parser has ended. -/
def Phrase.limit : Phrase → Nat
  | expression => 0
  | chain level => level
  | operand | suffixed => 8
  | primary => 9
  | list _ | listOrEmpty _ => 10

/-- What a parser reads at some level in use, up to a token that can follow, is a phrase. -/
def Sound (limit : Nat) (phrase : Phrase) (q : Parser Expression) (d : Nat) : Prop :=
  ∀ ts e t, Ended ts → q ⟨ts, d⟩ = .ok e t → ∃ rest, t = ⟨rest, d⟩ ∧ Ended rest ∧
    (canFollow (nextKind rest) = true →
      Stops phrase.limit rest ∧ ∃ k m, Derives phrase ts rest e k m ∧ d + m ≤ limit)

/-- A parser that goes on with a chain makes a longer one of it. The chain so far may have begun
anywhere, at the level in use `base`. -/
def SoundChain (limit : Nat) (q : Nat → Expression → Parser Expression) (d : Nat) : Prop :=
  ∀ least left ts e t, 0 < least → Ended ts → q least left ⟨ts, d⟩ = .ok e t →
    ∃ rest n, t = ⟨rest, n⟩ ∧ Ended rest ∧ ∀ start base level k, least ≤ level → level ≤ 7 →
      d = base + k →
      (canFollow (nextKind ts) = true → Stops (level + 1) ts ∧
        ∃ m, Derives (.chain level) start ts left k m ∧ base + m ≤ limit) →
      canFollow (nextKind rest) = true →
      Stops least rest ∧ ∃ k m, Derives (.chain least) start rest e k m ∧ base + m ≤ limit

/-- The same for suffixes. -/
def SoundSuffixes (limit : Nat) (q : Expression → Parser Expression) (d : Nat) : Prop :=
  ∀ object ts e t, Ended ts → q object ⟨ts, d⟩ = .ok e t →
    ∃ rest n, t = ⟨rest, n⟩ ∧ Ended rest ∧ ∀ start base k, d = base + k →
      (canFollow (nextKind ts) = true →
        ∃ m, Derives .suffixed start ts object k m ∧ base + m ≤ limit) →
      canFollow (nextKind rest) = true →
      Stops 8 rest ∧ ∃ k m, Derives .suffixed start rest e k m ∧ base + m ≤ limit

structure SoundLevel (limit : Nat) (l : Level) (d : Nat) : Prop where
  expression : Sound limit .expression l.expression d
  binary : ∀ least, 0 < least → least ≤ 7 → Sound limit (.chain least) (l.binary least) d
  chain : SoundChain limit l.chain d
  unary : Sound limit .operand l.unary d
  suffixes : SoundSuffixes limit l.suffixes d

variable {limit d : Nat} {below : Level}

theorem Derives.chain_mono {least level k m : Nat} {ts rest : List Token} {e : Expression}
    (h : Derives (.chain level) ts rest e k m) (hl : least ≤ level) :
    Derives (.chain least) ts rest e k m := by
  induction hl with
  | refl => exact h
  | step _ ih => exact ih (.tighter h)

theorem canFollow_of_binaryOp? {kind : TokenKind} {op : BinaryOp} (h : binaryOp? kind = some op) :
    canFollow kind = true := by
  obtain ⟨s, rfl, _⟩ := mem_of_binaryOp? h
  cases s <;> first | rfl | cases h

theorem canFollow_of_suffix? {kind : TokenKind} {suffix : Suffix} (h : suffix? kind = some suffix) :
    canFollow kind = true := by
  unfold suffix? at h
  split at h <;> first | rfl | cases h

theorem expressionOver_sound (hb : d < limit → SoundLevel limit below (d + 1)) :
    Sound limit .expression (below.expressionOver limit) d := by
  intro ts e t hts hrun
  obtain ⟨hd, t', h, rfl⟩ := of_nested hrun
  have hb := hb hd
  obtain ⟨test, s, htest, h⟩ := ok_of_bind h
  obtain ⟨us, rfl, hus, htest⟩ := hb.binary 1 (by decide) (by decide) _ _ _ hts htest
  by_cases hq : nextKind us = .symbol .question
  · rw [bind_ok (eat_run.trans (if_pos hq))] at h
    obtain ⟨p, vs, rfl, hvs, hadvance⟩ := hus.next hq (by simp) (d + 1)
    rw [hadvance] at h
    obtain ⟨_, _, m, htest, hm⟩ := htest rfl
    obtain ⟨consequent, s, hconsequent, h⟩ := ok_of_bind h
    obtain ⟨ws, rfl, hws, hconsequent⟩ := hb.expression _ _ _ hvs hconsequent
    obtain ⟨_, s, hcolon, h⟩ := ok_of_bind h
    obtain ⟨hk, rfl⟩ := of_expect hcolon
    obtain ⟨q, xs, rfl, hxs, hadvance⟩ := hws.next hk (by simp) (d + 1)
    rw [hadvance] at h
    obtain ⟨_, _, n, hconsequent, hn⟩ := hconsequent rfl
    obtain ⟨alternate, s, halternate, h⟩ := ok_of_bind h
    obtain ⟨rest, rfl, hrest, halternate⟩ := hb.expression _ _ _ hxs halternate
    cases h
    refine ⟨rest, rfl, hrest, fun hf => ?_⟩
    obtain ⟨hs, _, l, halternate, hl⟩ := halternate hf
    exact ⟨hs, _, _, .conditional htest hconsequent halternate, by omega⟩
  · rw [bind_ok (eat_other hq)] at h
    cases h
    refine ⟨us, rfl, hus, fun hf => ?_⟩
    obtain ⟨hs, _, m, htest, hm⟩ := htest hf
    exact ⟨hs.of_ne_question hq, _, _, .plain htest, by omega⟩

/-- Where a chain ends, what has been read of it is all of it. -/
theorem chain_end {least level base k : Nat} {left : Expression} {start ts : List Token}
    (hleast : 0 < least) (hl : least ≤ level) (h7 : level ≤ 7)
    (hop : ∀ op, binaryOp? (nextKind ts) = some op → op.precedence < least)
    (h : Stops (level + 1) ts ∧
      ∃ m, Derives (.chain level) start ts left k m ∧ base + m ≤ limit) :
    Stops least ts ∧ ∃ k m, Derives (.chain least) start ts left k m ∧ base + m ≤ limit := by
  obtain ⟨hs, m, hleft, hm⟩ := h
  exact ⟨(hs.mono (by omega)).of_binaryOp? hleast hop, k, m, hleft.chain_mono hl, hm⟩

theorem chainOver_sound (hb : d < limit → SoundLevel limit below (d + 1)) :
    SoundChain limit (below.chainOver limit) d := by
  intro least left ts e t hleast hts h
  rw [chainOver_run] at h
  cases hop : binaryOp? (nextKind ts) with
  | none =>
    rw [hop] at h
    cases h
    exact ⟨ts, d, rfl, hts, fun start base level k hl h7 _ hleft hf =>
      chain_end hleast hl h7 (by simp [hop]) (hleft hf)⟩
  | some op =>
    simp only [hop] at h
    by_cases hp : op.precedence < least
    · rw [if_pos hp] at h
      cases h
      exact ⟨ts, d, rfl, hts, fun start base level k hl h7 _ hleft hf =>
        chain_end hleast hl h7 (by simpa [hop] using hp) (hleft hf)⟩
    · rw [if_neg hp] at h
      have hfollow := canFollow_of_binaryOp? hop
      obtain ⟨s, hk, known⟩ := mem_of_binaryOp? hop
      obtain ⟨p, us, rfl, hus, hadvance⟩ := hts.next hk (by simp) d
      rw [hadvance] at h
      obtain ⟨_, u, henter, h⟩ := ok_of_bind h
      obtain ⟨hd, rfl⟩ := of_enter henter
      have hb := hb hd
      have hlevel := precedence_le op
      obtain ⟨right, u, hright, h⟩ := ok_of_bind h
      obtain ⟨vs, rfl, hvs, hright⟩ := hb.binary _ (Nat.succ_pos _) (by omega) _ _ _ hus hright
      obtain ⟨rest, n, rfl, hrest, hchain⟩ := hb.chain _ _ _ _ _ hleast hvs h
      refine ⟨rest, n, rfl, hrest, fun start base level k hl h7 hbase hleft hf => ?_⟩
      obtain ⟨hs, m, hleft, hm⟩ := hleft hfollow
      have hprecedence := hs.precedence_lt hop
      refine hchain start base op.precedence (k + 1) (by omega) (by omega) (by omega)
        (fun hf => ?_) hf
      obtain ⟨hs, _, n, hright, hn⟩ := hright hf
      exact ⟨hs, _, .operation known (hleft.chain_mono (by omega)) hright, by omega⟩

theorem binaryOver_sound {least : Nat} (hleast : 0 < least) (h7 : least ≤ 7)
    (hunary : Sound limit .operand (below.unaryOver limit) d)
    (hchain : SoundChain limit (below.chainOver limit) d) :
    Sound limit (.chain least) (below.binaryOver limit least) d := by
  intro ts e t hts h
  obtain ⟨left, s, hleft, h⟩ := ok_of_bind h
  obtain ⟨us, rfl, hus, hleft⟩ := hunary _ _ _ hts hleft
  obtain ⟨t', hrun, rfl⟩ := of_levelled h
  obtain ⟨rest, n, rfl, hrest, hmore⟩ := hchain _ _ _ _ _ hleast hus hrun
  refine ⟨rest, rfl, hrest, fun hf => hmore ts d 7 0 h7 (Nat.le_refl _) rfl (fun hf => ?_) hf⟩
  obtain ⟨hs, _, m, hleft, hm⟩ := hleft hf
  exact ⟨hs, m, .single hleft, hm⟩

theorem unaryOver_sound (hb : d < limit → SoundLevel limit below (d + 1))
    (hsuffixed : Sound limit .suffixed (below.postfixOver limit) d) :
    Sound limit .operand (below.unaryOver limit) d := by
  intro ts e t hts h
  rw [unaryOver_run] at h
  cases hop : unaryOp? (nextKind ts) with
  | none =>
    rw [hop] at h
    obtain ⟨rest, rfl, hrest, hrun⟩ := hsuffixed _ _ _ hts h
    refine ⟨rest, rfl, hrest, fun hf => ?_⟩
    obtain ⟨hs, _, m, hrun, hm⟩ := hrun hf
    exact ⟨hs, _, m, .unsigned hrun, hm⟩
  | some op =>
    rw [hop] at h
    obtain ⟨s, hk, known⟩ := mem_of_unaryOp? hop
    obtain ⟨p, us, rfl, hus, hadvance⟩ := hts.next hk (by simp) d
    rw [hadvance] at h
    obtain ⟨operand, s, hoperand, h⟩ := ok_of_bind h
    cases h
    obtain ⟨hd, t', hrun, rfl⟩ := of_nested hoperand
    obtain ⟨rest, rfl, hrest, hoperand⟩ := (hb hd).unary _ _ _ hus hrun
    refine ⟨rest, rfl, hrest, fun hf => ?_⟩
    obtain ⟨hs, _, m, hoperand, hm⟩ := hoperand hf
    exact ⟨hs, _, _, .signed known hoperand, by omega⟩

/-- What the parser of one suffix has read is a suffix. -/
def SoundSuffix (limit : Nat) (q : Expression → Suffix → Parser Expression) (d : Nat) : Prop :=
  ∀ object suffix ts e t, Ended ts → suffix? (nextKind ts) = some suffix →
    q object suffix ⟨ts, d⟩ = .ok e t → ∃ rest n, t = ⟨rest, d⟩ ∧ Ended rest ∧ d + n ≤ limit ∧
      ∀ start k m, Derives .suffixed start ts object k m →
        Derives .suffixed start rest e (k + 1) (max m (k + 1 + n))

theorem suffixesOver_sound (hb : d < limit → SoundLevel limit below (d + 1))
    (hsuffix : d < limit → SoundSuffix limit (suffixOf below.expression) (d + 1)) :
    SoundSuffixes limit (below.suffixesOver limit) d := by
  intro object ts e t hts h
  rw [suffixesOver_run] at h
  cases hk : suffix? (nextKind ts) with
  | none =>
    rw [hk] at h
    cases h
    refine ⟨ts, d, rfl, hts, fun start base k _ hobject hf => ?_⟩
    obtain ⟨m, hobject, hm⟩ := hobject hf
    exact ⟨(stops_of_canFollow hf).of_suffix? hk, k, m, hobject, hm⟩
  | some suffix =>
    rw [hk] at h
    obtain ⟨_, u, henter, h⟩ := ok_of_bind h
    obtain ⟨hd, rfl⟩ := of_enter henter
    obtain ⟨next, u, hnext, h⟩ := ok_of_bind h
    obtain ⟨us, n, rfl, hus, hn, hnext⟩ := hsuffix hd _ _ _ _ _ hts hk hnext
    obtain ⟨rest, i, rfl, hrest, hmore⟩ := (hb hd).suffixes _ _ _ _ hus h
    refine ⟨rest, i, rfl, hrest, fun start base k hbase hobject hf => ?_⟩
    refine hmore start base (k + 1) (by omega) (fun _ => ?_) hf
    obtain ⟨m, hobject, hm⟩ := hobject (canFollow_of_suffix? hk)
    exact ⟨_, hnext _ _ _ hobject, by omega⟩

section

variable {expression : Parser Expression} {closing : Symbol} {x : Expected}

theorem items_sound (hexpression : Sound limit .expression expression d)
    (hclosing : canFollow (.symbol closing) = true) (rounds : List Token) {ts : List Token}
    {es : List Expression} {t : State} (hts : Ended ts)
    (h : items expression closing x rounds ⟨ts, d⟩ = .ok es t) :
    ∃ rest k m, t = ⟨rest, d⟩ ∧ Ended rest ∧
      Derives (.list closing) ts rest (.array es) k m ∧ d + m ≤ limit := by
  induction rounds generalizing ts es t with
  | nil => cases h
  | cons _ rounds ih =>
    obtain ⟨e, s, he, h⟩ := ok_of_bind h
    obtain ⟨us, rfl, hus, he⟩ := hexpression _ _ _ hts he
    by_cases hk : nextKind us = .symbol closing
    · rw [bind_ok (eat_run.trans (if_pos hk))] at h
      obtain ⟨p, rest, rfl, hrest, hadvance⟩ := hus.next hk (by simp) d
      rw [hadvance] at h
      cases h
      obtain ⟨_, _, m, he, hm⟩ := he hclosing
      exact ⟨rest, _, m, rfl, hrest, .last he, hm⟩
    · rw [bind_ok (eat_other hk)] at h
      obtain ⟨_, s, hcomma, h⟩ := ok_of_bind h
      obtain ⟨hk, rfl⟩ := of_expect hcomma
      obtain ⟨p, vs, rfl, hvs, hadvance⟩ := hus.next hk (by simp) d
      rw [hadvance] at h
      obtain ⟨others, s, hothers, h⟩ := ok_of_bind h
      cases h
      obtain ⟨rest, _, n, rfl, hrest, hothers, hn⟩ := ih hvs hothers
      obtain ⟨_, _, m, he, hm⟩ := he rfl
      exact ⟨rest, _, _, rfl, hrest, .more he hothers, by omega⟩

theorem itemsUntil_sound (hd : d ≤ limit) (hexpression : Sound limit .expression expression d)
    (hclosing : canFollow (.symbol closing) = true) {ts : List Token} {es : List Expression}
    {t : State} (hts : Ended ts) (h : itemsUntil expression closing x ⟨ts, d⟩ = .ok es t) :
    ∃ rest k m, t = ⟨rest, d⟩ ∧ Ended rest ∧
      Derives (.listOrEmpty closing) ts rest (.array es) k m ∧ d + m ≤ limit := by
  rw [itemsUntil_run] at h
  by_cases hk : nextKind ts = .symbol closing
  · rw [if_pos hk] at h
    obtain ⟨p, rest, rfl, hrest, hadvance⟩ := hts.next hk (by simp) d
    rw [hadvance] at h
    cases h
    exact ⟨rest, _, _, rfl, hrest, .empty, hd⟩
  · rw [if_neg hk] at h
    obtain ⟨rest, _, m, rfl, hrest, hes, hm⟩ := items_sound hexpression hclosing ts hts h
    exact ⟨rest, _, m, rfl, hrest, .nonempty hes, hm⟩

theorem nameOrLambda_sound (hd : d ≤ limit) (hexpression : Sound limit .expression expression d)
    {n : String} {p : Nat} {ts : List Token} {e : Expression} {t : State} (hts : Ended ts)
    (h : nameOrLambda expression n ⟨ts, d⟩ = .ok e t) :
    ∃ rest, t = ⟨rest, d⟩ ∧ Ended rest ∧ (canFollow (nextKind rest) = true →
      ∃ k m, Derives .primary (⟨.name n, p⟩ :: ts) rest e k m ∧ d + m ≤ limit) := by
  rw [nameOrLambda_run] at h
  cases hn : keyword? n with
  | some v =>
    rw [hn] at h
    cases h
    exact ⟨ts, rfl, hts, fun _ => ⟨_, _, .keyword (keyword?_eq_some_iff.mp hn), hd⟩⟩
  | none =>
    simp only [hn] at h
    have free := keyword?_eq_none_iff.mp hn
    by_cases hk : nextKind ts = .symbol .arrow
    · rw [if_pos hk] at h
      obtain ⟨q, us, rfl, hus, hadvance⟩ := hts.next hk (by simp) d
      rw [hadvance] at h
      obtain ⟨body, s, hbody, h⟩ := ok_of_bind h
      cases h
      obtain ⟨rest, rfl, hrest, hbody⟩ := hexpression _ _ _ hus hbody
      refine ⟨rest, rfl, hrest, fun hf => ?_⟩
      obtain ⟨hs, _, m, hbody, hm⟩ := hbody hf
      exact ⟨_, m, .lambda free hbody (hs.closes hf), hm⟩
    · rw [if_neg hk] at h
      cases h
      exact ⟨ts, rfl, hts, fun _ => ⟨_, _, .name free, hd⟩⟩

theorem primary_sound (hd : d ≤ limit) (hexpression : Sound limit .expression expression d) :
    Sound limit .primary (primary expression) d := by
  intro ts e t hts h
  suffices hrun : ∃ rest, t = ⟨rest, d⟩ ∧ Ended rest ∧ (canFollow (nextKind rest) = true →
      ∃ k m, Derives .primary ts rest e k m ∧ d + m ≤ limit) by
    obtain ⟨rest, ht, hrest, hrun⟩ := hrun
    exact ⟨rest, ht, hrest, fun hf => ⟨stops_of_canFollow hf, hrun hf⟩⟩
  cases ts with
  | nil => exact absurd hts id
  | cons token us =>
    obtain ⟨kind, p⟩ := token
    rw [primary_run] at h
    by_cases hfinish : kind = .finish
    · subst hfinish
      exact absurd h of_unexpected
    have hus : Ended us := hts.tail hfinish
    rw [advance_cons hus.ne_nil] at h
    dsimp only at h
    split at h
    · cases h
      exact ⟨us, rfl, hus, fun _ => ⟨_, _, .number, hd⟩⟩
    · cases h
      exact ⟨us, rfl, hus, fun _ => ⟨_, _, .text, hd⟩⟩
    · exact nameOrLambda_sound hd hexpression hus h
    · obtain ⟨inner, s, hinner, h⟩ := ok_of_bind h
      obtain ⟨vs, rfl, hvs, hinner⟩ := hexpression _ _ _ hus hinner
      obtain ⟨_, s, hclose, h⟩ := ok_of_bind h
      obtain ⟨hk, rfl⟩ := of_expect hclose
      obtain ⟨q, rest, rfl, hrest, hadvance⟩ := hvs.next hk (by simp) d
      rw [hadvance] at h
      cases h
      obtain ⟨_, _, m, hinner, hm⟩ := hinner rfl
      exact ⟨rest, rfl, hrest, fun _ => ⟨_, m, .group hinner, hm⟩⟩
    · obtain ⟨es, s, hes, h⟩ := ok_of_bind h
      cases h
      obtain ⟨rest, _, m, rfl, hrest, hes, hm⟩ := itemsUntil_sound hd hexpression rfl hus hes
      exact ⟨rest, rfl, hrest, fun _ => ⟨_, m, .array hes, hm⟩⟩
    · exact absurd h of_unexpected

end

theorem suffix?_cases {kind : TokenKind} {suffix : Suffix} (h : suffix? kind = some suffix) :
    (suffix = .dot ∧ kind = .symbol .dot) ∨ (suffix = .bracket ∧ kind = .symbol .leftBracket) ∨
      (suffix = .call ∧ kind = .symbol .leftParen) := by
  unfold suffix? at h
  split at h <;> simp_all

section

variable {expression : Parser Expression} {object : Expression} {ts : List Token} {e : Expression}
  {t : State} {p : Nat}

theorem dotSuffix_sound (hts : Ended ts) (h : dotSuffix object ⟨ts, d⟩ = .ok e t) :
    ∃ rest, t = ⟨rest, d⟩ ∧ Ended rest ∧ ∀ start k m,
      Derives .suffixed start (⟨.symbol .dot, p⟩ :: ts) object k m →
      Derives .suffixed start rest e (k + 1) (max m (k + 1)) := by
  by_cases hk : nextKind ts = .symbol .star
  · rw [dotSuffix, bind_ok (eat_run.trans (if_pos hk))] at h
    obtain ⟨q, us, rfl, hus, hadvance⟩ := hts.next hk (by simp) d
    rw [hadvance] at h
    obtain ⟨_, s, hdot, h⟩ := ok_of_bind h
    obtain ⟨hk, rfl⟩ := of_expect hdot
    obtain ⟨r, vs, rfl, hvs, hadvance⟩ := hus.next hk (by simp) d
    rw [hadvance] at h
    obtain ⟨key, s, hkey, h⟩ := ok_of_bind h
    obtain ⟨hk, rfl⟩ := of_expectName hkey
    obtain ⟨u, rest, rfl, hrest, hadvance⟩ := hvs.next hk (by simp) d
    rw [hadvance] at h
    cases h
    exact ⟨rest, rfl, hrest, fun start k m hobject => .projection hobject⟩
  · rw [dotSuffix, bind_ok (eat_other hk)] at h
    obtain ⟨property, s, hproperty, h⟩ := ok_of_bind h
    obtain ⟨hk, rfl⟩ := of_expectName hproperty
    obtain ⟨q, rest, rfl, hrest, hadvance⟩ := hts.next hk (by simp) d
    rw [hadvance] at h
    cases h
    refine ⟨rest, rfl, hrest, fun start k m hobject => ?_⟩
    by_cases hlength : property = "length"
    · subst hlength
      exact .length hobject
    · rw [if_neg hlength]
      exact .member hlength hobject

theorem LiteralIndex.ended {v : Value} {rest : List Token} (h : LiteralIndex ts v rest)
    (hts : Ended ts) : Ended rest := by
  cases h with
  | number => exact (hts.tail (by simp)).tail (by simp)
  | text => exact (hts.tail (by simp)).tail (by simp)
  | negated => exact ((hts.tail (by simp)).tail (by simp)).tail (by simp)

theorem bracketSuffix_sound (hd : d ≤ limit) (hexpression : Sound limit .expression expression d)
    (hts : Ended ts) (h : bracketSuffix expression object ⟨ts, d⟩ = .ok e t) :
    ∃ rest n, t = ⟨rest, d⟩ ∧ Ended rest ∧ d + n ≤ limit ∧ ∀ start k m,
      Derives .suffixed start (⟨.symbol .leftBracket, p⟩ :: ts) object k m →
      Derives .suffixed start rest e (k + 1) (max m (k + 1 + n)) := by
  rw [bracketSuffix_run] at h
  cases hi : literalIndex? ts with
  | some literal =>
    obtain ⟨v, rest⟩ := literal
    rw [hi] at h
    cases h
    have hv := literalIndex?_eq_some_iff.mp hi
    exact ⟨rest, 0, rfl, hv.ended hts, hd, fun start k m hobject => .index hobject hv⟩
  | none =>
    rw [hi] at h
    obtain ⟨predicate, s, hpredicate, h⟩ := ok_of_bind h
    obtain ⟨us, rfl, hus, hpredicate⟩ := hexpression _ _ _ hts hpredicate
    obtain ⟨_, s, hclose, h⟩ := ok_of_bind h
    obtain ⟨hk, rfl⟩ := of_expect hclose
    obtain ⟨q, rest, rfl, hrest, hadvance⟩ := hus.next hk (by simp) d
    rw [hadvance] at h
    cases h
    obtain ⟨_, _, n, hpredicate, hn⟩ := hpredicate rfl
    exact ⟨rest, n, rfl, hrest, hn, fun start k m hobject =>
      .filter hobject (literalIndex?_eq_none_iff.mp hi) hpredicate⟩

theorem callSuffix_sound (hd : d ≤ limit) (hexpression : Sound limit .expression expression d)
    (hts : Ended (⟨.symbol .leftParen, p⟩ :: ts))
    (h : callSuffix expression object ⟨⟨.symbol .leftParen, p⟩ :: ts, d⟩ = .ok e t) :
    ∃ rest n, t = ⟨rest, d⟩ ∧ Ended rest ∧ d + n ≤ limit ∧ ∀ start k m,
      Derives .suffixed start (⟨.symbol .leftParen, p⟩ :: ts) object k m →
      Derives .suffixed start rest e (k + 1) (max m (k + 1 + n)) := by
  cases hp : object.path? with
  | none =>
    rw [callSuffix, get_bind, hp] at h
    cases h
  | some path =>
    have hts := hts.tail (by simp)
    rw [callSuffix_run hp, advance_cons hts.ne_nil] at h
    obtain ⟨args, s, hargs, h⟩ := ok_of_bind h
    cases h
    obtain ⟨rest, _, n, rfl, hrest, hargs, hn⟩ := itemsUntil_sound hd hexpression rfl hts hargs
    exact ⟨rest, n, rfl, hrest, hn, fun start k m hobject =>
      .call hobject (path?_eq_some_iff.mp hp) hargs⟩

theorem suffixOf_sound (hd : d ≤ limit) (hexpression : Sound limit .expression expression d) :
    SoundSuffix limit (suffixOf expression) d := by
  intro object suffix ts e t hts hk h
  rcases suffix?_cases hk with ⟨rfl, hn⟩ | ⟨rfl, hn⟩ | ⟨rfl, hn⟩
  · obtain ⟨p, us, rfl, hus, -⟩ := hts.next hn (by simp) d
    rw [suffixOf, advance_bind hus.ne_nil] at h
    obtain ⟨rest, ht, hrest, hobject⟩ := dotSuffix_sound hus h
    exact ⟨rest, 0, ht, hrest, hd, hobject⟩
  · obtain ⟨p, us, rfl, hus, -⟩ := hts.next hn (by simp) d
    rw [suffixOf, advance_bind hus.ne_nil] at h
    exact bracketSuffix_sound hd hexpression hus h
  · obtain ⟨p, us, rfl, hus, -⟩ := hts.next hn (by simp) d
    exact callSuffix_sound hd hexpression hts h

end

theorem postfixOver_sound (hprimary : Sound limit .primary (primary (below.expressionOver limit)) d)
    (hsuffixes : SoundSuffixes limit (below.suffixesOver limit) d) :
    Sound limit .suffixed (below.postfixOver limit) d := by
  intro ts e t hts h
  obtain ⟨object, s, hobject, h⟩ := ok_of_bind h
  obtain ⟨us, rfl, hus, hobject⟩ := hprimary _ _ _ hts hobject
  obtain ⟨t', hrun, rfl⟩ := of_levelled h
  obtain ⟨rest, n, rfl, hrest, hmore⟩ := hsuffixes _ _ _ _ hus hrun
  refine ⟨rest, rfl, hrest, hmore ts d 0 rfl fun hf => ?_⟩
  obtain ⟨_, _, m, hobject, hm⟩ := hobject hf
  exact ⟨m, .bare hobject, hm⟩

theorem SoundLevel.raised (hd : d ≤ limit) (hb : d < limit → SoundLevel limit below (d + 1)) :
    SoundLevel limit (below.raised limit) d := by
  have hexpression := expressionOver_sound hb
  have hsuffixes := suffixesOver_sound hb fun hd => suffixOf_sound hd (hb hd).expression
  have hunary := unaryOver_sound hb (postfixOver_sound (primary_sound hd hexpression) hsuffixes)
  have hchain := chainOver_sound hb
  exact ⟨hexpression, fun least hl h7 => binaryOver_sound hl h7 hunary hchain, hchain, hunary,
    hsuffixes⟩

/-- The parsers of the tower at the height that is left of the limit. -/
theorem ofHeight_sound {height : Nat} (h : d + height = limit) :
    SoundLevel limit (ofHeight limit (height + 1)) d := by
  induction height generalizing d with
  | zero => exact SoundLevel.raised (by omega) fun hd => absurd hd (by omega)
  | succ height ih => exact SoundLevel.raised (by omega) fun _ => ih (by omega)

theorem sentence_of_formula {tokens : List Token} {e : Expression} {t : State}
    (hts : Ended tokens) (h : formula limit ⟨tokens, 0⟩ = .ok e t) :
    ∃ m ≤ limit, Sentence tokens e m := by
  obtain ⟨e, s, he, h⟩ := ok_of_bind h
  obtain ⟨rest, rfl, hrest, he⟩ :=
    (ofHeight_sound (Nat.zero_add limit)).expression _ _ _ hts he
  obtain ⟨_, s, hend, h⟩ := ok_of_bind h
  cases h
  obtain ⟨hk, -⟩ := of_expect hend
  obtain ⟨p, rfl⟩ := hrest.eq_finish hk
  obtain ⟨_, k, m, he, hm⟩ := he rfl
  exact ⟨m, by omega, k, p, he⟩

end Grammar

end Stagewise
