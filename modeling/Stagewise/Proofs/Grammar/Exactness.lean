import Stagewise.Formula.Basic
import Stagewise.Proofs.Grammar.Completeness
import Stagewise.Proofs.Grammar.Soundness
import Stagewise.Proofs.Outcome

/-! The parser of formulas is exact: it reads the sentences of the grammar that keep to the limit of
levels, each as the one expression that is derived, and refuses every other sentence as too deep. The
grammar is unambiguous since every sentence keeps to some limit. -/

namespace Stagewise

namespace Grammar

theorem Sentence.formula {levels : Nat} {tokens : List Token} {e : Expression}
    (h : Sentence tokens e levels) (limit : Nat) :
    ∃ t, Within limit levels (Grammar.formula limit ⟨tokens, 0⟩) (.ok e t) := by
  obtain ⟨k, p, h⟩ := h
  have hstop : Stops 0 [⟨.finish, p⟩] := by
    intro n hn
    cases hn
  have hrun := h.follows limit (List.cons_ne_nil _ _) hstop limit 0 (Nat.zero_add _)
  refine ⟨⟨[⟨.finish, p⟩], 0⟩, (hrun.bind (n := 0) fun _ => ?_).levels_eq (by omega)⟩
  exact Within.of_eq (Nat.zero_le _) rfl

/-- Tokens are read in one way only. With the lesser of two numbers of levels as the limit, what
needs the greater would be too deep. -/
theorem Sentence.unique {m m' : Nat} {tokens : List Token} {e e' : Expression}
    (h : Sentence tokens e m) (h' : Sentence tokens e' m') : e = e' ∧ m = m' := by
  have hle : ∀ {m m' : Nat} {e e' : Expression}, Sentence tokens e m → Sentence tokens e' m' →
      m' ≤ m ∧ (m = m' → e = e') := by
    intro m m' e e' h h'
    obtain ⟨t, hrun⟩ := h.formula m
    obtain ⟨t', hrun'⟩ := h'.formula m
    have hok := hrun.1 (Nat.le_refl m)
    have hm : m' ≤ m := by
      refine Nat.le_of_not_lt fun hlt => ?_
      obtain ⟨u, hu⟩ := hrun'.2 hlt
      rw [hok] at hu
      cases hu
    refine ⟨hm, fun _ => ?_⟩
    have he := hok.symm.trans (hrun'.1 hm)
    cases he
    rfl
  have hm : m = m' := Nat.le_antisymm (hle h' h).1 (hle h h').1
  exact ⟨(hle h h').2 hm, hm⟩

theorem parseTokens_eq_ok_iff {tokens : List Token} {e : Expression} (hts : Ended tokens) :
    parseTokens tokens = .ok e ↔ ∃ levels ≤ maxDepth, Sentence tokens e levels := by
  constructor
  · intro h
    unfold parseTokens at h
    cases hrun : formula maxDepth ⟨tokens, 0⟩ with
    | error _ _ =>
      rw [hrun] at h
      cases h
    | ok e' t =>
      rw [hrun] at h
      cases h
      exact sentence_of_formula hts hrun
  · rintro ⟨levels, hl, h⟩
    obtain ⟨t, hrun⟩ := h.formula maxDepth
    rw [parseTokens, hrun.1 hl]

theorem parseTokens_eq_tooDeep {levels : Nat} {tokens : List Token} {e : Expression}
    (h : Sentence tokens e levels) (hl : maxDepth < levels) :
    parseTokens tokens = .error (.tooDeep maxDepth) := by
  obtain ⟨t, hrun⟩ := h.formula maxDepth
  obtain ⟨u, hu⟩ := hrun.2 hl
  rw [parseTokens, hu]

theorem lexeme_ne_finish {position : Nat} {c : Char} {cs text : List Char} {kind : TokenKind}
    (h : Token.lexeme position c cs = .ok (kind, text)) : kind ≠ .finish := by
  rintro rfl
  unfold Token.lexeme at h
  grind

theorem Ended.cons {kind : TokenKind} {position : Nat} {ts : List Token} (h : Ended ts)
    (hk : kind ≠ .finish) : Ended (⟨kind, position⟩ :: ts) := by
  cases ts with
  | nil => exact absurd h id
  | cons token ts => exact ⟨hk, h⟩

theorem ended_scan {position : Nat} {cs : List Char} {tokens : List Token}
    (h : Token.scan position cs = .ok tokens) : Ended tokens := by
  induction position, cs using Token.scan.induct generalizing tokens with
  | case1 position =>
    rw [Token.scan_nil] at h
    cases h
    rfl
  | case2 position c rest hblank ih =>
    rw [Token.scan_blank hblank] at h
    exact ih h
  | case3 position c rest hblank kind text hlexeme ih =>
    rw [Token.scan_of_ok hblank hlexeme] at h
    obtain ⟨ts, hts, rfl⟩ := Outcome.map_eq_ok_iff.mp h
    exact (ih hts).cons (lexeme_ne_finish hlexeme)
  | case4 position c rest hblank e hlexeme =>
    rw [Token.scan_of_error hblank hlexeme] at h
    cases h

theorem parseExpression_eq_ok_iff {source : String} {e : Expression} :
    Formula.parseExpression source = .ok e ↔
      isBlankText source = false ∧ source.utf8ByteSize ≤ Formula.maxLength ∧
        ∃ tokens levels, Token.ofText source = .ok tokens ∧ Sentence tokens e levels ∧
          levels ≤ maxDepth ∧ e.depth ≤ maxDepth := by
  unfold Formula.parseExpression
  cases hblank : isBlankText source with
  | true => simp
  | false =>
    by_cases hlength : Formula.maxLength < source.utf8ByteSize
    · simp only [Bool.false_eq_true, if_false, if_pos hlength]
      exact ⟨fun h => (nomatch h), fun ⟨_, h, _⟩ => absurd hlength (Nat.not_lt.mpr h)⟩
    · simp only [Bool.false_eq_true, if_false, if_neg hlength, Outcome.bind_eq_ok_iff]
      constructor
      · rintro ⟨tokens, htokens, e', he, h⟩
        split at h
        · cases h
        · rename_i hdepth
          cases h
          obtain ⟨levels, hl, hs⟩ := (parseTokens_eq_ok_iff (ended_scan htokens)).mp he
          exact ⟨trivial, Nat.not_lt.mp hlength, tokens, levels, htokens, hs, hl,
            Nat.not_lt.mp hdepth⟩
      · rintro ⟨-, -, tokens, levels, htokens, hs, hl, hdepth⟩
        refine ⟨tokens, htokens, e, ?_, if_neg (Nat.not_lt.mpr hdepth)⟩
        exact (parseTokens_eq_ok_iff (ended_scan htokens)).mpr ⟨levels, hl, hs⟩

theorem derives_name {n : String} {p : Nat} {rest : List Token}
    (free : n ∉ keywords.map Prod.fst) :
    Derives (.chain 7) (⟨.name n, p⟩ :: rest) rest (.name n) 0 0 :=
  .single (.unsigned (.bare (.name free)))

end Grammar

end Stagewise
