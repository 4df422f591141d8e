import Stagewise.Proofs.Token.Number

/-! The scanner at one place: it reads the one lexeme that stands there and is not part of a longer
one, and it fails where there is none. -/

namespace Stagewise

namespace Token

/-- A lexeme at the front of a text, where no lexeme is longer. -/
structure Front (kind : TokenKind) (text cs : List Char) : Prop where
  lexeme : Lexeme kind text
  longest : Longest (fun t => ∃ k, Lexeme k t) text cs

theorem longest_name {c : Char} (cs : List Char) (hc : isNameStart c = true) :
    Longest IsName (c :: cs.takeWhile isNamePart) (c :: cs) := by
  refine ⟨⟨hc, fun _ hd => List.mem_takeWhile_imp hd⟩,
    List.cons_prefix_cons.mpr ⟨rfl, List.takeWhile_prefix _⟩, fun longer hlonger hfront => ?_⟩
  cases longer with
  | nil => exact absurd hlonger id
  | cons d ds =>
    exact Nat.succ_le_succ (length_le_takeWhile hlonger.2 (List.cons_prefix_cons.mp hfront).2)

/-! ### Operators -/

theorem symbol?_front {cs : List Char} {s : Symbol} (h : symbol? cs = some s) :
    s.text.toList <+: cs := by
  unfold symbol? at h
  split at h <;> simp only [Option.some.injEq, reduceCtorEq] at h
  all_goals subst h; exact ⟨_, rfl⟩

theorem starts_equals (cs : List Char) : (∃ t, cs = '=' :: t) ∨ ∀ t, cs = '=' :: t → False := by
  by_cases h : ∃ t, cs = '=' :: t
  · exact .inl h
  · exact .inr fun t ht => h ⟨t, ht⟩

/-- An operator at the front of a text is read there, or a longer one: only those that an equals
sign makes longer depend on what comes next. -/
theorem symbol?_longest (s : Symbol) (rest : List Char) :
    ∃ t, symbol? (s.text.toList ++ rest) = some t ∧
      s.text.toList.length ≤ t.text.toList.length := by
  cases s with
  | equal =>
    change ∃ t, symbol? ('=' :: '=' :: rest) = some t ∧ _
    rcases starts_equals rest with ⟨t, rfl⟩ | h
    · exact ⟨.same, rfl, by decide⟩
    · exact ⟨.equal, by rw [symbol?]; exact h, by decide⟩
  | notEqual =>
    change ∃ t, symbol? ('!' :: '=' :: rest) = some t ∧ _
    rcases starts_equals rest with ⟨t, rfl⟩ | h
    · exact ⟨.notSame, rfl, by decide⟩
    · exact ⟨.notEqual, by rw [symbol?]; exact h, by decide⟩
  | bang =>
    change ∃ t, symbol? ('!' :: rest) = some t ∧ _
    rcases starts_equals rest with ⟨t, rfl⟩ | h
    · rcases starts_equals t with ⟨u, rfl⟩ | h
      · exact ⟨.notSame, rfl, by decide⟩
      · exact ⟨.notEqual, by rw [symbol?]; exact h, by decide⟩
    · exact ⟨.bang, by rw [symbol?]; exact fun t => h ('=' :: t); exact h, by decide⟩
  | less =>
    change ∃ t, symbol? ('<' :: rest) = some t ∧ _
    rcases starts_equals rest with ⟨t, rfl⟩ | h
    · exact ⟨.atMost, rfl, by decide⟩
    · exact ⟨.less, by rw [symbol?]; exact h, by decide⟩
  | greater =>
    change ∃ t, symbol? ('>' :: rest) = some t ∧ _
    rcases starts_equals rest with ⟨t, rfl⟩ | h
    · exact ⟨.atLeast, rfl, by decide⟩
    · exact ⟨.greater, by rw [symbol?]; exact h, by decide⟩
  | _ => exact ⟨_, rfl, Nat.le_refl _⟩

theorem longest_symbol {cs : List Char} {s : Symbol} (h : symbol? cs = some s) :
    Longest (fun t => ∃ u : Symbol, u.text.toList = t) s.text.toList cs := by
  refine ⟨⟨s, rfl⟩, symbol?_front h, ?_⟩
  rintro _ ⟨t, rfl⟩ ⟨rest, rfl⟩
  obtain ⟨u, hu, hle⟩ := symbol?_longest t rest
  obtain rfl := Option.some.inj (h.symm.trans hu)
  exact hle

/-! ### Strings -/

theorem escape_unescaped (c : Char) : Escape c (unescaped c) := by
  unfold unescaped
  split_ifs with hn ht
  · exact hn ▸ .newline
  · exact ht ▸ .tab
  · exact .self hn ht

theorem Escape.unescaped_eq {c d : Char} (h : Escape c d) : unescaped c = d := by
  cases h with
  | newline => decide
  | tab => decide
  | self hn ht => rw [unescaped, if_neg hn, if_neg ht]

theorem quotedText?_sound {quote : Char} {cs payload text : List Char}
    (h : quotedText? quote cs = some (payload, text)) :
    ∃ written, text = written ++ [quote] ∧ Spells quote written payload ∧ text <+: cs := by
  fun_induction quotedText? quote cs generalizing payload text with
  | case1 => cases h
  | case2 => cases h
  | case3 c cs ih =>
    obtain ⟨read, hread, he⟩ := Option.map_eq_some_iff.mp h
    obtain ⟨rfl, rfl⟩ := Prod.mk.inj he
    obtain ⟨written, htext, hspells, hfront⟩ := ih hread
    exact ⟨_ :: _ :: written, by rw [htext]; rfl, .escaped (escape_unescaped c) hspells,
      by simpa using hfront⟩
  | case4 cs =>
    obtain ⟨rfl, rfl⟩ := Prod.mk.inj (Option.some.inj h)
    exact ⟨[], rfl, .nil, _, rfl⟩
  | case5 c cs hlast hescape hc ih =>
    obtain ⟨read, hread, he⟩ := Option.map_eq_some_iff.mp h
    obtain ⟨rfl, rfl⟩ := Prod.mk.inj he
    obtain ⟨written, htext, hspells, hfront⟩ := ih hread
    have hb : c ≠ '\\' := by
      rintro rfl
      cases cs with
      | nil => exact hlast rfl rfl
      | cons d ds => exact hescape d ds rfl rfl
    exact ⟨_ :: written, by rw [htext]; rfl, .plain hc hb hspells, by simpa using hfront⟩

theorem Spells.quotedText? {quote : Char} {written payload : List Char}
    (h : Spells quote written payload) (hquote : quote ≠ '\\') (rest : List Char) :
    quotedText? quote (written ++ quote :: rest) = some (payload, written ++ [quote]) := by
  induction h with
  | nil =>
    rw [List.nil_append, Token.quotedText?, if_pos rfl]
    · rfl
    · exact fun h => absurd h hquote
    · exact fun _ _ h => absurd h hquote
  | escaped hc h ih =>
    rw [List.cons_append, List.cons_append, Token.quotedText?, ih, hc.unescaped_eq]
    rfl
  | plain hq hb h ih => simp [Token.quotedText?, ih, hq, hb]

theorem IsQuote.ne_backslash {c : Char} (h : IsQuote c) : c ≠ '\\' := by
  rcases h with rfl | rfl <;> decide

/-- What is spelled up to a quote does not depend on where one starts to look for it. -/
theorem Spells.unique {quote : Char} {a b payload payload' rest rest' : List Char}
    (ha : Spells quote a payload) (hb : Spells quote b payload') (hquote : quote ≠ '\\')
    (h : a ++ quote :: rest = b ++ quote :: rest') : a = b ∧ payload = payload' := by
  have hread := ha.quotedText? hquote rest
  rw [h, hb.quotedText? hquote rest'] at hread
  obtain ⟨hpayload, htext⟩ := Prod.mk.inj (Option.some.inj hread)
  exact ⟨(List.append_cancel_right htext).symm, hpayload.symm⟩

theorem longest_text {quote : Char} {written payload cs : List Char}
    (h : Spells quote written payload) (hquote : quote ≠ '\\')
    (hfront : written ++ [quote] <+: cs) :
    Longest (fun t => ∃ w p, t = quote :: (w ++ [quote]) ∧ Spells quote w p)
      (quote :: (written ++ [quote])) (quote :: cs) := by
  refine ⟨⟨_, _, rfl, h⟩, List.cons_prefix_cons.mpr ⟨rfl, hfront⟩, ?_⟩
  rintro _ ⟨w, p, rfl, hw⟩ hlonger
  obtain ⟨rest, rfl⟩ := hfront
  obtain ⟨rest', he⟩ := (List.cons_prefix_cons.mp hlonger).2
  have hplace : w ++ quote :: rest' = written ++ quote :: rest := by simpa using he
  obtain ⟨rfl, -⟩ := hw.unique h hquote hplace
  exact Nat.le_refl _

/-! ### One lexeme -/

theorem symbol?_text (s : Symbol) : symbol? s.text.toList = some s := by
  cases s <;> rfl

theorem Lexeme.kind_unique {kind kind' : TokenKind} {text : List Char} (h : Lexeme kind text)
    (h' : Lexeme kind' text) : kind = kind' := by
  obtain ⟨c, cs, rfl, -⟩ := h.head
  have hread := h.read
  have hread' := h'.read
  split_ifs at hread hread' with hdigit hstart hquote
  · obtain ⟨d, rfl, hd⟩ := hread
    obtain ⟨d', rfl, hd'⟩ := hread'
    rw [Option.some.inj (hd.ofChars?.symm.trans hd'.ofChars?)]
  · rw [hread.1, hread'.1]
  · obtain ⟨written, payload, rfl, rfl, hspells⟩ := hread
    obtain ⟨written', payload', rfl, htext, hspells'⟩ := hread'
    rw [(hspells.unique hspells' hquote.ne_backslash htext).2]
  · obtain ⟨s, rfl, hs⟩ := hread
    obtain ⟨s', rfl, hs'⟩ := hread'
    have hsymbol := symbol?_text s
    rw [hs, ← hs', symbol?_text s'] at hsymbol
    rw [Option.some.inj hsymbol]

theorem Longest.front_of_form {form : List Char → Prop} {kind : TokenKind} {c : Char}
    {text cs : List Char} (h : Longest form text (c :: cs)) (hlexeme : Lexeme kind text)
    (hform : ∀ k t, Lexeme k (c :: t) → form (c :: t)) : Front kind text (c :: cs) := by
  refine ⟨hlexeme, ⟨kind, hlexeme⟩, h.front, ?_⟩
  rintro longer ⟨k, hk⟩ hfront
  obtain ⟨d, t, rfl, -⟩ := hk.head
  obtain ⟨rfl, -⟩ := List.cons_prefix_cons.mp hfront
  exact h.le _ (hform k t hk) hfront

/-- A quote that no quote closes. -/
def Unclosed (c : Char) (cs : List Char) : Prop :=
  IsQuote c ∧ ∀ written payload, Spells c written payload → ¬ written ++ [c] <+: cs

section Place

variable {c : Char} {cs : List Char}

theorem front_number (cs : List Char) (hdigit : c.isDigit = true) :
    ∃ d : Decimal, numberValue? (numberText (c :: cs)) = some d.toFloat ∧
      Front (.number d.toFloat) (numberText (c :: cs)) (c :: cs) := by
  have hlongest := longest_number cs hdigit
  obtain ⟨d, hd⟩ := hlongest.holds
  refine ⟨d, by rw [numberValue?, hd.ofChars?, Option.map_some],
    hlongest.front_of_form (.number hd) fun k t hk => ?_⟩
  have hread := hk.read
  rw [if_pos hdigit] at hread
  exact hread.imp fun _ h => h.2

theorem front_name (hstart : isNameStart c = true) :
    Front (.name (String.ofList (c :: cs.takeWhile isNamePart))) (c :: cs.takeWhile isNamePart)
      (c :: cs) := by
  have hlongest := longest_name cs hstart
  refine hlongest.front_of_form (.name hlongest.holds) fun k t hk => ?_
  have hread := hk.read
  rw [if_neg (by simp [isDigit_of_isNameStart hstart]), if_pos hstart] at hread
  exact hread.2

theorem Lexeme.text_of_isQuote {kind : TokenKind} (h : Lexeme kind (c :: cs)) (hc : IsQuote c) :
    ∃ written payload, cs = written ++ [c] ∧ Spells c written payload := by
  have hread := h.read
  rw [if_neg (by simp [hc.isDigit_eq_false]), if_neg (by simp [hc.isNameStart_eq_false]),
    if_pos hc] at hread
  obtain ⟨written, payload, -, h⟩ := hread
  exact ⟨written, payload, h⟩

theorem front_of_spells {written payload : List Char} (hc : IsQuote c)
    (h : Spells c written payload) (hfront : written ++ [c] <+: cs) :
    Front (.text (String.ofList payload)) (c :: (written ++ [c])) (c :: cs) := by
  refine (longest_text h hc.ne_backslash hfront).front_of_form (.text hc h) fun k t hk => ?_
  obtain ⟨w, p, rfl, hw⟩ := hk.text_of_isQuote hc
  exact ⟨w, p, rfl, hw⟩

theorem front_text {payload text : List Char} (hc : IsQuote c)
    (h : quotedText? c cs = some (payload, text)) :
    Front (.text (String.ofList payload)) (c :: text) (c :: cs) := by
  obtain ⟨written, rfl, hspells, hfront⟩ := quotedText?_sound h
  exact front_of_spells hc hspells hfront

theorem unclosed_of_quotedText? (hc : IsQuote c) (h : quotedText? c cs = none) :
    Unclosed c cs := by
  refine ⟨hc, fun written payload hspells ⟨rest, hrest⟩ => ?_⟩
  have hsome := hspells.quotedText? hc.ne_backslash rest
  rw [List.append_cons, hrest, h] at hsome
  cases hsome

section Other

variable (hdigit : ¬ c.isDigit = true) (hstart : ¬ isNameStart c = true) (hquote : ¬ IsQuote c)
include hdigit hstart hquote

theorem front_symbol {s : Symbol} (h : symbol? (c :: cs) = some s) :
    Front (.symbol s) s.text.toList (c :: cs) := by
  refine (longest_symbol h).front_of_form (.symbol s) fun k t hk => ?_
  have hread := hk.read
  rw [if_neg hdigit, if_neg hstart, if_neg hquote] at hread
  exact hread.imp fun _ h => h.2

theorem not_lexeme_of_symbol? (h : symbol? (c :: cs) = none) {kind : TokenKind}
    {text : List Char} (hlexeme : Lexeme kind text) : ¬ text <+: c :: cs := by
  intro hfront
  obtain ⟨d, t, rfl, -⟩ := hlexeme.head
  obtain ⟨rfl, -⟩ := List.cons_prefix_cons.mp hfront
  have hread := hlexeme.read
  rw [if_neg hdigit, if_neg hstart, if_neg hquote] at hread
  obtain ⟨s, -, hs⟩ := hread
  obtain ⟨rest, hrest⟩ := hfront
  obtain ⟨u, hu, -⟩ := symbol?_longest s rest
  rw [hs, hrest, h] at hu
  cases hu

end Other

/-- What the scanner may find at a place that is not blank. -/
inductive Scanned (position : Nat) (c : Char) (cs : List Char) :
    Except ParseError (TokenKind × List Char) → Prop where
  | token {kind : TokenKind} {text : List Char} (h : Front kind text (c :: cs)) :
    Scanned position c cs (.ok (kind, text))
  | unclosed (h : Unclosed c cs) : Scanned position c cs (.error (.unterminatedString position))
  | nothing (h : ∀ kind text, Lexeme kind text → ¬ text <+: c :: cs) :
    Scanned position c cs (.error (.unexpectedCharacter c position))

theorem scanned_lexeme (position : Nat) (c : Char) (cs : List Char) :
    Scanned position c cs (lexeme position c cs) := by
  unfold lexeme
  split_ifs with hdigit hstart hquote
  · obtain ⟨d, hvalue, hfront⟩ := front_number cs hdigit
    rw [hvalue]
    exact .token hfront
  · exact .token (front_name hstart)
  · cases h : quotedText? c cs with
    | some read => exact .token (front_text hquote h)
    | none => exact .unclosed (unclosed_of_quotedText? hquote h)
  · cases h : symbol? (c :: cs) with
    | some s => exact .token (front_symbol hdigit hstart hquote h)
    | none =>
      exact .nothing fun kind text hk => not_lexeme_of_symbol? hdigit hstart hquote h hk

theorem lexeme_of_front {kind : TokenKind} {text : List Char} (h : Front kind text (c :: cs))
    (position : Nat) : lexeme position c cs = .ok (kind, text) := by
  have hscanned := scanned_lexeme position c cs
  generalize lexeme position c cs = result at hscanned
  cases hscanned with
  | token h' =>
    obtain rfl := h.longest.unique h'.longest
    obtain rfl := h.lexeme.kind_unique h'.lexeme
    rfl
  | nothing hnone => exact absurd h.longest.front (hnone kind text h.lexeme)
  | unclosed hopen =>
    obtain ⟨d, t, rfl, -⟩ := h.lexeme.head
    obtain ⟨rfl, hfront⟩ := List.cons_prefix_cons.mp h.longest.front
    obtain ⟨written, payload, rfl, hspells⟩ := h.lexeme.text_of_isQuote hopen.1
    exact absurd hfront (hopen.2 written payload hspells)

end Place

end Token

end Stagewise
