import Mathlib.Data.List.Chain
import Stagewise.Proofs.Formula.Levels
import Stagewise.Proofs.Formula.Names
import Stagewise.Proofs.Token.Writing

/-! The limit on nesting. Without groups the levels that a derivation counts can be read off the
expression, so it is the expression alone that decides whether its text is too deep. -/

namespace Stagewise

def TokenKind.isName : TokenKind → Bool
  | name _ => true
  | _ => false

namespace Grammar

open Expression

/-- Every opening parenthesis stands right after a name, where it opens the arguments of a call. -/
def Ungrouped (tokens : List Token) : Prop :=
  nextKind tokens ≠ .symbol .leftParen ∧
    tokens.IsChain fun before token => token.kind = .symbol .leftParen → before.kind.isName = true

instance : DecidablePred Ungrouped := fun _ => inferInstanceAs (Decidable (_ ∧ _))

/-- Tokens without a group in which every name is one that can be written. -/
structure Plain (ts : List Token) : Prop where
  ungrouped : Ungrouped ts
  itemFree : ItemFree ts
  undotted : ∀ n, Writes ts n → '.' ∉ n.toList

namespace Plain

variable {ts us : List Token} {p : Nat}

theorem after {s : Symbol} (h : Plain ts) (hs : ⟨.symbol s, p⟩ :: us <:+ ts) : Plain us where
  ungrouped := by
    obtain ⟨hfirst, hothers⟩ := List.isChain_cons.mp (h.ungrouped.2.suffix hs)
    refine ⟨fun hparen => ?_, hothers⟩
    cases us with
    | nil => cases hparen
    | cons token us => cases hfirst token rfl hparen
  itemFree token hmem := h.itemFree token (hs.mem (.tail _ hmem))
  undotted n hn := h.undotted n (hn.of_suffix ((List.suffix_cons _ _).trans hs))

theorem dots_eq_zero {n : String} (h : Plain ts) (hs : ⟨.name n, p⟩ :: us <:+ ts) : dots n = 0 :=
  List.count_eq_zero.mpr (h.undotted n ⟨p, hs.mem List.mem_cons_self⟩)

end Plain

theorem plain_ofText {source : String} {tokens : List Token} (hungrouped : Ungrouped tokens)
    (h : Token.ofText source = .ok tokens) : Plain tokens where
  ungrouped := hungrouped
  itemFree := itemFree_ofText h
  undotted n hn hdot := by
    obtain ⟨p, hmem⟩ := hn
    exact absurd (isNamePart_of_scan h hmem hdot) (by decide)

/-- An operand with its suffixes. The suffixes of a dotted name can be told from the name. -/
structure Operand (e : Expression) (k m : Nat) : Prop where
  noOperator : e.openOperators = 0
  suffixes : k = e.suffixes
  inside : m = e.inside
  noItem : e.isItem = false
  dotted : ∀ path, Dotted e path → dots path = e.suffixes ∧ e.inside = e.suffixes

/-- The two numbers of a phrase as they are found in its expression. -/
def Counted (e : Expression) (k m : Nat) : Phrase → Prop
  | .expression => m = e.levels
  | .chain _ => k = e.openOperators ∧ m = e.inside
  | .operand => e.openOperators = 0 ∧ m = e.inside
  | .suffixed => Operand e k m
  | .primary => Operand e 0 m
  | .list _ | .listOrEmpty _ => m = e.inside

theorem dots_member (path n : String) : dots (path ++ "." ++ n) = dots path + 1 + dots n := by
  simp only [dots, String.toList_append, List.count_append]
  rfl

namespace Operand

variable {e : Expression} {k m : Nat}

theorem length (h : Operand e k m) : Operand (.length e) (k + 1) (max m (k + 1)) where
  noOperator := rfl
  suffixes := by simp [Expression.suffixes, h.noItem, h.suffixes]
  inside := by simp [Expression.inside, h.noItem, h.suffixes, h.inside]
  noItem := rfl
  dotted := by rintro _ ⟨⟩

theorem member {n : String} (h : Operand e k m) (hn : dots n = 0) :
    Operand (.member e n) (k + 1) (max m (k + 1)) where
  noOperator := rfl
  suffixes := by simp [Expression.suffixes, h.noItem, h.suffixes]
  inside := by simp [Expression.inside, h.noItem, h.suffixes, h.inside]
  noItem := rfl
  dotted path hpath := by
    cases hpath with
    | @member _ path _ hpath =>
      obtain ⟨hdots, hinside⟩ := h.dotted path hpath
      simp [Expression.suffixes, Expression.inside, h.noItem, dots_member, hdots, hinside, hn]

theorem projection (h : Operand e k m) (key : String) :
    Operand (.projection e key) (k + 1) (max m (k + 1)) where
  noOperator := rfl
  suffixes := by rw [h.suffixes, Expression.suffixes]
  inside := by rw [h.suffixes, h.inside, Expression.inside]
  noItem := rfl
  dotted := by rintro _ ⟨⟩

theorem index (h : Operand e k m) (position : Expression) :
    Operand (.index e position) (k + 1) (max m (k + 1)) where
  noOperator := rfl
  suffixes := by rw [h.suffixes, Expression.suffixes]
  inside := by rw [h.suffixes, h.inside, Expression.inside]
  noItem := rfl
  dotted := by rintro _ ⟨⟩

theorem filter (h : Operand e k m) (predicate : Expression) :
    Operand (.filter e predicate) (k + 1) (max m (k + 1 + predicate.levels)) where
  noOperator := rfl
  suffixes := by rw [h.suffixes, Expression.suffixes]
  inside := by rw [h.suffixes, h.inside, levels, Expression.inside]
  noItem := rfl
  dotted := by rintro _ ⟨⟩

/-- Of what is called only the dotted name is left in the expression. -/
theorem call {path : String} (h : Operand e k m) (hpath : Dotted e path)
    (args : List Expression) :
    Operand (.call path args) (k + 1) (max m (k + 1 + insideAll args)) := by
  obtain ⟨hdots, hinside⟩ := h.dotted path hpath
  have hk : k = dots path := h.suffixes.trans hdots.symm
  have hm : m = k := (h.inside.trans hinside).trans h.suffixes.symm
  refine ⟨rfl, by rw [hk, Expression.suffixes], ?_, rfl, by rintro _ ⟨⟩⟩
  rw [Expression.inside, hm, hk]
  omega

end Operand

theorem Derives.counted {phrase : Phrase} {ts rest : List Token} {e : Expression} {k m : Nat}
    (h : Derives phrase ts rest e k m) (hts : Plain ts) : Counted e k m phrase := by
  induction h with
  | plain _ ih =>
    obtain ⟨-, hm⟩ := ih hts
    exact congrArg (· + 1) hm
  | conditional test consequent _ iha ihb ihc =>
    have hus := hts.after test.suffix
    obtain ⟨-, ha⟩ := iha hts
    have hb : _ = levels _ := ihb hus
    have hc : _ = levels _ := ihc (hus.after consequent.suffix)
    rw [Counted, ha, hb, hc]
    rfl
  | single _ ih =>
    obtain ⟨hk, hm⟩ := ih hts
    exact ⟨hk.symm, hm⟩
  | tighter _ ih | nonempty _ ih | bare _ ih => exact ih hts
  | operation _ left _ iha ihb =>
    obtain ⟨hk, hm⟩ := iha hts
    obtain ⟨-, hn⟩ := ihb (hts.after left.suffix)
    exact ⟨by rw [hk, openOperators], by rw [hm, hn, hk, inside]⟩
  | signed _ _ ih =>
    obtain ⟨-, hm⟩ := ih (hts.after List.suffix_rfl)
    exact ⟨rfl, by rw [hm, inside]⟩
  | unsigned _ ih =>
    have h : Operand _ _ _ := ih hts
    exact ⟨h.noOperator, h.inside⟩
  | length _ ih => exact Operand.length (ih hts)
  | member _ h ih =>
    exact Operand.member (ih hts) (hts.dots_eq_zero ((List.suffix_cons _ _).trans h.suffix))
  | projection _ ih => exact Operand.projection (ih hts) _
  | index _ _ ih => exact Operand.index (ih hts) _
  | filter source _ predicate iha ihb =>
    have hus := hts.after source.suffix
    have hn : _ = levels _ := ihb hus
    have hbound := SameLevels.boundToItem (predicate.hygienic hus.itemFree).1.noOwnItem
    rw [hn, ← hbound.levels]
    exact Operand.filter (iha hts) _
  | call source callee _ iha ihb =>
    have hn : _ = insideAll _ := ihb (hts.after source.suffix)
    rw [hn]
    exact Operand.call (iha hts) callee _
  | number | text | keyword => exact ⟨rfl, rfl, rfl, rfl, by rintro _ ⟨⟩⟩
  | name =>
    have hname := hts.itemFree _ List.mem_cons_self
    refine ⟨rfl, rfl, rfl, by simpa [isItem] using hname, fun path hpath => ?_⟩
    cases hpath
    exact ⟨hts.dots_eq_zero List.suffix_rfl, rfl⟩
  | lambda _ _ _ ih =>
    have hm : _ = levels _ := ih (hts.after (List.suffix_cons _ _))
    exact ⟨rfl, rfl, hm, rfl, by rintro _ ⟨⟩⟩
  | group => exact absurd rfl hts.ungrouped.1
  | array _ ih =>
    have hm : _ = inside _ := ih (hts.after List.suffix_rfl)
    exact ⟨rfl, rfl, hm, rfl, by rintro _ ⟨⟩⟩
  | empty => rfl
  | last _ ih =>
    have hm : _ = levels _ := ih hts
    exact hm.trans (Nat.max_zero _).symm
  | more first _ iha ihb =>
    have hm : _ = levels _ := iha hts
    have hn : _ = insideAll _ := ihb (hts.after first.suffix)
    rw [Counted, hm, hn]
    rfl

theorem Sentence.levels_eq {source : String} {tokens : List Token} {e : Expression} {m : Nat}
    (h : Sentence tokens e m) (htokens : Token.ofText source = .ok tokens)
    (hungrouped : Ungrouped tokens) : m = e.levels := by
  obtain ⟨k, p, h⟩ := h
  exact h.counted (plain_ofText hungrouped htokens)

theorem Sentence.not_blank {source : String} {tokens : List Token} {e : Expression} {m : Nat}
    (h : Sentence tokens e m) (htokens : Token.ofText source = .ok tokens) :
    isBlankText source = false := by
  refine Bool.eq_false_iff.mpr fun hblank => ?_
  have hscan := Token.scan_blanks (List.all_eq_true.mp hblank) 0 []
  rw [List.append_nil, Token.scan_nil] at hscan
  obtain rfl := Except.ok.inj (hscan.symm.trans htokens)
  obtain ⟨k, q, h⟩ := h
  exact Nat.lt_irrefl _ h.length_lt

/-- A sentence is refused for what it has in use while it is read, or for its height. -/
theorem Sentence.parseExpression {source : String} {tokens : List Token} {e : Expression} {m : Nat}
    (h : Sentence tokens e m) (htokens : Token.ofText source = .ok tokens)
    (hsize : source.utf8ByteSize ≤ Formula.maxLength) :
    Formula.parseExpression source =
      if maxDepth < e.height ∨ maxDepth < m then .error (.tooDeep maxDepth) else .ok e := by
  have hread : Formula.parseExpression source = parseTokens tokens >>= fun e =>
      if maxDepth < e.depth then .error (.tooDeep maxDepth) else .ok e := by
    rw [Formula.parseExpression, if_neg (by simp [h.not_blank htokens]),
      if_neg (Nat.not_lt.mpr hsize), htokens]
    rfl
  by_cases hm : maxDepth < m
  · rw [hread, parseTokens_eq_tooDeep h hm, if_pos (.inr hm)]
    rfl
  · have hparse := (parseTokens_eq_ok_iff (ended_scan htokens)).mpr ⟨m, Nat.not_lt.mp hm, h⟩
    rw [hread, hparse]
    simp only [bind, Except.bind, depth_eq_height, hm, or_false]

/-- The height and the levels of the expression that a text without groups writes, when it is read
under the given limit. -/
def measures? (limit : Nat) (source : String) : Option (Nat × Nat) :=
  (Token.ofText source).toOption.bind fun tokens =>
    match formula limit ⟨tokens, 0⟩ with
    | .ok e _ => if Ungrouped tokens then some (e.height, e.levels) else none
    | .error _ _ => none

theorem sentence_of_measures? {limit height levels : Nat} {source : String}
    (h : measures? limit source = some (height, levels)) :
    ∃ tokens e m, Token.ofText source = .ok tokens ∧ Sentence tokens e m ∧ Ungrouped tokens ∧
      e.height = height ∧ e.levels = levels := by
  obtain ⟨tokens, hread, h⟩ := Option.bind_eq_some_iff.mp h
  have htokens := Outcome.toOption_eq_some_iff.mp hread
  split at h
  · rename_i e t hrun
    obtain ⟨m, -, hsentence⟩ := sentence_of_formula (ended_scan htokens) hrun
    split at h
    · rename_i hungrouped
      obtain ⟨hheight, hlevels⟩ := Prod.mk.inj (Option.some.inj h)
      exact ⟨tokens, e, m, htokens, hsentence, hungrouped, hheight, hlevels⟩
    · cases h
  · cases h

/-- A text without groups is refused as too deep exactly when its expression has too many levels, in
height or in use while it is read. -/
theorem parse_tooDeep_iff (source : String) (tokens : List Token) (e : Expression) (m : Nat)
    (hsize : source.utf8ByteSize ≤ Formula.maxLength) (htokens : Token.ofText source = .ok tokens)
    (h : Sentence tokens e m) (hungrouped : Ungrouped tokens) :
    (Formula.parseExpression source = .error (.tooDeep maxDepth) ↔
      maxDepth < e.height ∨ maxDepth < e.levels) ∧
    (e.height ≤ maxDepth → e.levels ≤ maxDepth → Formula.parseExpression source = .ok e) := by
  have hlevels := h.levels_eq htokens hungrouped
  rw [h.parseExpression htokens hsize, hlevels]
  refine ⟨⟨fun hdeep => ?_, fun hdeep => if_pos hdeep⟩, fun hheight hlevels => ?_⟩
  · by_contra hshallow
    rw [if_neg hshallow] at hdeep
    cases hdeep
  · rw [if_neg (by omega)]

/-- When `least` is read six levels are in use. The tree is higher by the item that `qty` is read
from. -/
theorem parse_nested_predicate :
    let source := "orders[items[qty > least]].total + fee"
    ∃ tokens e m, source.utf8ByteSize ≤ Formula.maxLength ∧
      Token.ofText source = .ok tokens ∧ Sentence tokens e m ∧ Ungrouped tokens ∧
      e.height = 7 ∧ e.levels = 6 ∧ Formula.parseExpression source = .ok e := by
  intro source
  have hsize : source.utf8ByteSize ≤ Formula.maxLength := by decide +kernel
  have hmeasures : measures? maxDepth source = some (7, 6) := by decide +kernel
  obtain ⟨tokens, e, m, htokens, h, hungrouped, hheight, hlevels⟩ :=
    sentence_of_measures? hmeasures
  refine ⟨tokens, e, m, hsize, htokens, h, hungrouped, hheight, hlevels, ?_⟩
  exact (parse_tooDeep_iff source tokens e m hsize htokens h hungrouped).2
    (by rw [hheight]; decide) (by rw [hlevels]; decide)

/-- Each of the nested predicates counts twice, as a suffix and as an expression, and adds one level
to the tree. -/
theorem parse_tooDeep_of_low :
    let source := String.join (List.replicate 32 "a[" ++ "a" :: List.replicate 32 "]")
    ∃ tokens e m, source.utf8ByteSize ≤ Formula.maxLength ∧
      Token.ofText source = .ok tokens ∧ Sentence tokens e m ∧ Ungrouped tokens ∧
      e.height = 34 ∧ Formula.parseExpression source = .error (.tooDeep maxDepth) ∧
      ¬(Formula.parseExpression source = .error (.tooDeep maxDepth) ↔ maxDepth < e.height) := by
  intro source
  have hsize : source.utf8ByteSize ≤ Formula.maxLength := by decide +kernel
  have hmeasures : measures? 65 source = some (34, 65) := by decide +kernel
  obtain ⟨tokens, e, m, htokens, h, hungrouped, hheight, hlevels⟩ :=
    sentence_of_measures? hmeasures
  have hdeep : Formula.parseExpression source = .error (.tooDeep maxDepth) := by
    rw [h.parseExpression htokens hsize, h.levels_eq htokens hungrouped, hlevels]
    exact if_pos (.inr (by decide))
  refine ⟨tokens, e, m, hsize, htokens, h, hungrouped, hheight, hdeep, fun hiff => ?_⟩
  have htall := hiff.mp hdeep
  rw [hheight] at htall
  exact absurd htall (by decide)

end Grammar

end Stagewise
