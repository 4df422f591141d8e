import Stagewise.Proofs.Grammar.Exactness
import Stagewise.Proofs.Token.Writing

/-! A derivation sees the kinds of tokens and not their places, so the blanks between the items of a
formula have no part in the tree that it is read as. -/

namespace Stagewise

namespace Grammar

/-- Tokens of the same kinds, at any places. -/
inductive SameKinds : List Token → List Token → Prop where
  | nil : SameKinds [] []
  | cons {ts us : List Token} (kind : TokenKind) (p q : Nat) (h : SameKinds ts us) :
    SameKinds (⟨kind, p⟩ :: ts) (⟨kind, q⟩ :: us)

theorem SameKinds.symm {ts us : List Token} (h : SameKinds ts us) : SameKinds us ts := by
  induction h with
  | nil => exact .nil
  | cons kind p q _ ih => exact .cons kind q p ih

theorem SameKinds.nextKind_eq {ts us : List Token} (h : SameKinds ts us) :
    nextKind us = nextKind ts := by
  cases h <;> rfl

theorem SameKinds.closes {ts us : List Token} (h : SameKinds ts us) (hts : Closes ts) :
    Closes us := by
  rw [Closes, h.nextKind_eq]
  exact hts

theorem SameKinds.of_map {ts us : List Token} (h : ts.map Token.kind = us.map Token.kind) :
    SameKinds ts us := by
  induction ts generalizing us with
  | nil =>
    obtain rfl := List.map_eq_nil_iff.mp h.symm
    exact .nil
  | cons t ts ih =>
    obtain ⟨u, us, rfl, hkind, hmap⟩ := List.map_eq_cons_iff.mp h.symm
    obtain ⟨kind, p⟩ := t
    obtain ⟨kind', q⟩ := u
    obtain rfl : kind' = kind := hkind
    exact .cons _ p q (ih hmap.symm)

theorem LiteralIndex.sameKinds {ts rest us : List Token} {v : Value} (h : LiteralIndex ts v rest)
    (hts : SameKinds ts us) : ∃ rest', SameKinds rest rest' ∧ LiteralIndex us v rest' := by
  cases h with
  | number =>
    obtain - | ⟨_, _, _, - | ⟨_, _, _, hrest⟩⟩ := hts
    exact ⟨_, hrest, .number⟩
  | text =>
    obtain - | ⟨_, _, _, - | ⟨_, _, _, hrest⟩⟩ := hts
    exact ⟨_, hrest, .text⟩
  | negated =>
    obtain - | ⟨_, _, _, - | ⟨_, _, _, - | ⟨_, _, _, hrest⟩⟩⟩ := hts
    exact ⟨_, hrest, .negated⟩

theorem Derives.sameKinds {phrase : Phrase} {ts rest us : List Token} {e : Expression} {k m : Nat}
    (h : Derives phrase ts rest e k m) (hts : SameKinds ts us) :
    ∃ rest', SameKinds rest rest' ∧ Derives phrase us rest' e k m := by
  induction h generalizing us with
  | plain _ ih =>
    obtain ⟨rest', hrest, h⟩ := ih hts
    exact ⟨rest', hrest, .plain h⟩
  | conditional _ _ _ iha ihb ihc =>
    obtain ⟨_, - | ⟨_, _, _, hus⟩, ha⟩ := iha hts
    obtain ⟨_, - | ⟨_, _, _, hvs⟩, hb⟩ := ihb hus
    obtain ⟨rest', hrest, hc⟩ := ihc hvs
    exact ⟨rest', hrest, .conditional ha hb hc⟩
  | single _ ih =>
    obtain ⟨rest', hrest, h⟩ := ih hts
    exact ⟨rest', hrest, .single h⟩
  | tighter _ ih =>
    obtain ⟨rest', hrest, h⟩ := ih hts
    exact ⟨rest', hrest, .tighter h⟩
  | operation known _ _ iha ihb =>
    obtain ⟨_, - | ⟨_, _, _, hus⟩, ha⟩ := iha hts
    obtain ⟨rest', hrest, hb⟩ := ihb hus
    exact ⟨rest', hrest, .operation known ha hb⟩
  | signed known _ ih =>
    obtain - | ⟨_, _, _, hts⟩ := hts
    obtain ⟨rest', hrest, h⟩ := ih hts
    exact ⟨rest', hrest, .signed known h⟩
  | unsigned _ ih =>
    obtain ⟨rest', hrest, h⟩ := ih hts
    exact ⟨rest', hrest, .unsigned h⟩
  | bare _ ih =>
    obtain ⟨rest', hrest, h⟩ := ih hts
    exact ⟨rest', hrest, .bare h⟩
  | length _ ih =>
    obtain ⟨_, - | ⟨_, _, _, - | ⟨_, _, _, hrest⟩⟩, h⟩ := ih hts
    exact ⟨_, hrest, .length h⟩
  | member other _ ih =>
    obtain ⟨_, - | ⟨_, _, _, - | ⟨_, _, _, hrest⟩⟩, h⟩ := ih hts
    exact ⟨_, hrest, .member other h⟩
  | projection _ ih =>
    obtain ⟨_, - | ⟨_, _, _, - | ⟨_, _, _, - | ⟨_, _, _, - | ⟨_, _, _, hrest⟩⟩⟩⟩, h⟩ := ih hts
    exact ⟨_, hrest, .projection h⟩
  | index _ literal ih =>
    obtain ⟨_, - | ⟨_, _, _, hus⟩, h⟩ := ih hts
    obtain ⟨rest', hrest, hliteral⟩ := literal.sameKinds hus
    exact ⟨rest', hrest, .index h hliteral⟩
  | filter _ other _ iha ihb =>
    obtain ⟨_, - | ⟨_, _, _, hus⟩, ha⟩ := iha hts
    obtain ⟨_, - | ⟨_, _, _, hrest⟩, hb⟩ := ihb hus
    refine ⟨_, hrest, .filter ha (fun v vs hliteral => ?_) hb⟩
    obtain ⟨ws, -, hliteral⟩ := hliteral.sameKinds hus.symm
    exact other v ws hliteral
  | call _ callee _ iha ihargs =>
    obtain ⟨_, - | ⟨_, _, _, hus⟩, ha⟩ := iha hts
    obtain ⟨rest', hrest, hargs⟩ := ihargs hus
    exact ⟨rest', hrest, .call ha callee hargs⟩
  | number =>
    obtain - | ⟨_, _, _, hrest⟩ := hts
    exact ⟨_, hrest, .number⟩
  | text =>
    obtain - | ⟨_, _, _, hrest⟩ := hts
    exact ⟨_, hrest, .text⟩
  | keyword known =>
    obtain - | ⟨_, _, _, hrest⟩ := hts
    exact ⟨_, hrest, .keyword known⟩
  | name free =>
    obtain - | ⟨_, _, _, hrest⟩ := hts
    exact ⟨_, hrest, .name free⟩
  | lambda free _ closes ih =>
    obtain - | ⟨_, _, _, - | ⟨_, _, _, hts⟩⟩ := hts
    obtain ⟨rest', hrest, h⟩ := ih hts
    exact ⟨rest', hrest, .lambda free h (hrest.closes closes)⟩
  | group _ ih =>
    obtain - | ⟨_, _, _, hts⟩ := hts
    obtain ⟨_, - | ⟨_, _, _, hrest⟩, h⟩ := ih hts
    exact ⟨_, hrest, .group h⟩
  | array _ ih =>
    obtain - | ⟨_, _, _, hts⟩ := hts
    obtain ⟨rest', hrest, h⟩ := ih hts
    exact ⟨rest', hrest, .array h⟩
  | empty =>
    obtain - | ⟨_, _, _, hrest⟩ := hts
    exact ⟨_, hrest, .empty⟩
  | nonempty _ ih =>
    obtain ⟨rest', hrest, h⟩ := ih hts
    exact ⟨rest', hrest, .nonempty h⟩
  | last _ ih =>
    obtain ⟨_, - | ⟨_, _, _, hrest⟩, h⟩ := ih hts
    exact ⟨_, hrest, .last h⟩
  | more _ _ iha ihb =>
    obtain ⟨_, - | ⟨_, _, _, hus⟩, ha⟩ := iha hts
    obtain ⟨rest', hrest, hb⟩ := ihb hus
    exact ⟨rest', hrest, .more ha hb⟩

theorem Sentence.sameKinds {ts us : List Token} {e : Expression} {levels : Nat}
    (h : Sentence ts e levels) (hts : SameKinds ts us) : Sentence us e levels := by
  obtain ⟨k, p, h⟩ := h
  obtain ⟨_, - | ⟨_, _, q, - | _⟩, h⟩ := h.sameKinds hts
  exact ⟨k, q, h⟩

theorem derives_text {s : String} {p : Nat} {rest : List Token} :
    Derives (.chain 7) (⟨.text s, p⟩ :: rest) rest (.literal (.text s)) 0 0 :=
  .single (.unsigned (.bare .text))

theorem parseTokens_of_sameKinds {ts us : List Token} {e : Expression} (hts : Ended ts)
    (hus : Ended us) (h : SameKinds ts us) (hparse : parseTokens ts = .ok e) :
    parseTokens us = .ok e := by
  obtain ⟨levels, hl, hsentence⟩ := (parseTokens_eq_ok_iff hts).mp hparse
  exact (parseTokens_eq_ok_iff hus).mpr ⟨levels, hl, hsentence.sameKinds h⟩

end Grammar

namespace Token

theorem kinds_placed (position : Nat) (parts : List (List Char × Item)) :
    (placed position parts).map Token.kind = parts.map fun part => part.2.kind := by
  induction parts generalizing position with
  | nil => rfl
  | cons part parts ih =>
    obtain ⟨gap, item⟩ := part
    simp [placed, ih]

namespace Layout

theorem kinds_tokens (l : Layout) :
    l.tokens.map Token.kind = l.items.map Item.kind ++ [.finish] := by
  simp [tokens, items, kinds_placed]

theorem sameKinds {l l' : Layout} (h : l.items = l'.items) :
    Grammar.SameKinds l.tokens l'.tokens :=
  .of_map (by rw [kinds_tokens, kinds_tokens, h])

theorem ended (l : Layout) : Grammar.Ended l.tokens :=
  Grammar.ended_scan (ofText_layout l)

theorem isBlankText_eq_true_iff (l : Layout) : isBlankText l.text = true ↔ l.items = [] := by
  rw [isBlankText, text, String.toList_ofList, items, List.map_eq_nil_iff, List.all_eq_true]
  cases hparts : l.parts with
  | nil => simpa [written] using l.blank_last
  | cons part parts =>
    obtain ⟨gap, item⟩ := part
    obtain ⟨c, cs, htext, hblank⟩ := item.lexeme.head
    simp only [reduceCtorEq, iff_false]
    intro hall
    have hc := hall c (by simp [written, htext])
    rw [hblank] at hc
    cases hc

/-- The single item without blanks around it. -/
def single (item : Item) : Layout where
  parts := [([], item)]
  last := []
  blank := by simp
  blank_last := by simp
  apart := by simp

end Layout

theorem parseExpression_of_items {l l' : Layout} {e : Expression} (h : l.items = l'.items)
    (hlength : l'.text.utf8ByteSize ≤ Formula.maxLength)
    (hparse : Formula.parseExpression l.text = .ok e) :
    Formula.parseExpression l'.text = .ok e := by
  obtain ⟨hblank, -, tokens, levels, htokens, hsentence, hlevels, hdepth⟩ :=
    Grammar.parseExpression_eq_ok_iff.mp hparse
  obtain rfl := Except.ok.inj ((ofText_layout l).symm.trans htokens)
  refine Grammar.parseExpression_eq_ok_iff.mpr ⟨?_, hlength, l'.tokens, levels, ofText_layout l',
    hsentence.sameKinds (Layout.sameKinds h), hlevels, hdepth⟩
  rw [Bool.eq_false_iff, ne_eq, Layout.isBlankText_eq_true_iff] at hblank ⊢
  rwa [← h]

theorem sentence_text (s : String) (p q : Nat) :
    Grammar.Sentence [⟨.text s, p⟩, ⟨.finish, q⟩] (.literal (.text s)) 1 :=
  ⟨0, q, .plain (Grammar.derives_text.chain_mono (by decide))⟩

theorem depth_literal (v : Value) : (Expression.literal v).depth = 1 := by
  simp [Expression.depth, Expression.deepest, Expression.children]

theorem parse_quoted {quote : Char} (h : IsQuote quote) (s : String) :
    let text := String.ofList (quote :: (escaped quote s.toList ++ [quote]))
    ofText text = .ok [⟨.text s, 0⟩, ⟨.finish, text.utf8ByteSize⟩] ∧
      Grammar.parseTokens [⟨.text s, 0⟩, ⟨.finish, text.utf8ByteSize⟩] =
        .ok (.literal (.text s)) ∧
      (text.utf8ByteSize ≤ Formula.maxLength →
        Formula.parseExpression text = .ok (.literal (.text s))) := by
  intro text
  let l := Layout.single (.quoted quote h s)
  have htext : l.text = text := by simp [l, text, Layout.single, Layout.text, written, Item.text]
  have htokens : ofText text = .ok [⟨.text s, 0⟩, ⟨.finish, text.utf8ByteSize⟩] := by
    have hlayout := ofText_layout l
    rw [Layout.tokens, htext] at hlayout
    exact hlayout
  have hsentence := sentence_text s 0 text.utf8ByteSize
  refine ⟨htokens, (Grammar.parseTokens_eq_ok_iff (Grammar.ended_scan htokens)).mpr
    ⟨1, by decide, hsentence⟩, fun hlength => ?_⟩
  refine Grammar.parseExpression_eq_ok_iff.mpr ⟨?_, hlength, _, 1, htokens, hsentence, by decide,
    by rw [depth_literal]; decide⟩
  rw [← htext, Bool.eq_false_iff, ne_eq, Layout.isBlankText_eq_true_iff]
  exact List.cons_ne_nil _ _

/-- Scanning gives the items of a layout back. What is parsed depends on the items alone, as long as
the text is not too long, and every string is the value of a formula, in either quotes. -/
theorem ofText_undoes_writing :
    (∀ l : Layout, ofText l.text = .ok l.tokens) ∧
      (∀ (l l' : Layout) (e : Expression), l.items = l'.items →
        (Grammar.parseTokens l.tokens = .ok e → Grammar.parseTokens l'.tokens = .ok e) ∧
        (l'.text.utf8ByteSize ≤ Formula.maxLength → Formula.parseExpression l.text = .ok e →
          Formula.parseExpression l'.text = .ok e)) ∧
      ∀ quote, IsQuote quote → ∀ s : String,
        let text := String.ofList (quote :: (escaped quote s.toList ++ [quote]))
        ofText text = .ok [⟨.text s, 0⟩, ⟨.finish, text.utf8ByteSize⟩] ∧
        Grammar.parseTokens [⟨.text s, 0⟩, ⟨.finish, text.utf8ByteSize⟩] =
          .ok (.literal (.text s)) ∧
        (text.utf8ByteSize ≤ Formula.maxLength →
          Formula.parseExpression text = .ok (.literal (.text s))) := by
  refine ⟨ofText_layout, fun l l' e h => ⟨?_, parseExpression_of_items h⟩,
    fun _ h s => parse_quoted h s⟩
  exact Grammar.parseTokens_of_sameKinds l.ended l'.ended (Layout.sameKinds h)

/-- The sum of `a` and a text with a quote and a backslash in it, written in two ways. -/
theorem parse_spaced_sum :
    let e : Expression := .binary .add (.name "a") (.literal (.text "say \"hi\" \\"))
    ∃ l l' : Layout, l.text = "a + \"say \\\"hi\\\" \\\\\"" ∧
      l'.text = "\t a\n+\u2003\"say \\\"hi\\\" \\\\\" " ∧ l.items = l'.items ∧
      l'.text.utf8ByteSize ≤ Formula.maxLength ∧ Formula.parseExpression l.text = .ok e ∧
      Formula.parseExpression l'.text = .ok e := by
  intro e
  let items : List Item := [.name ['a'] ⟨by decide, by simp⟩, .symbol .plus,
    .quoted '"' (.inl rfl) "say \"hi\" \\"]
  let l : Layout := ⟨[([], items[0]), ([' '], items[1]), ([' '], items[2])], [],
    by simp [isBlank], by simp, by simp⟩
  let l' : Layout := ⟨[(['\t', ' '], items[0]), (['\n'], items[1]), (['\u2003'], items[2])], [' '],
    by simp [isBlank], by simp [isBlank], by simp⟩
  have hlength : l'.text.utf8ByteSize ≤ Formula.maxLength := by decide +kernel
  have hparse : Formula.parseExpression l.text = .ok e := by
    refine Grammar.parseExpression_eq_ok_iff.mpr ⟨by decide +kernel, by decide +kernel, l.tokens, 2,
      ofText_undoes_writing.1 l, ⟨0, l.text.utf8ByteSize, ?_⟩, by decide, ?_⟩
    · have hplus : (Symbol.plus, BinaryOp.add) ∈ Grammar.operators 5 := by decide
      have hname : Grammar.Derives (.chain 7) l.tokens l.tokens.tail (.name "a") 0 0 :=
        Grammar.derives_name (by decide)
      exact .plain ((Grammar.Derives.operation hplus (hname.chain_mono (by decide))
        (Grammar.derives_text.chain_mono (by decide))).chain_mono (by decide))
    · simp [e, Expression.depth, Expression.deepest, Expression.children, Grammar.maxDepth]
  exact ⟨l, l', by decide +kernel, by decide +kernel, rfl, hlength, hparse,
    (ofText_undoes_writing.2.1 l l' e rfl).2 hlength hparse⟩

end Token

end Stagewise
