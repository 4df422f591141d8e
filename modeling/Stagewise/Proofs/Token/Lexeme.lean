import Stagewise.Formula.Token.Scan
import Stagewise.Proofs.Text.Letter

/-! The written forms of tokens, as relations that do not refer to the scanner: numbers with the
decimal that they stand for, names, strings with their payload, and operators. The first character
of a lexeme tells which of the four it is. -/

namespace Stagewise

namespace Token

def Digits (ds : List Char) : Prop :=
  ds ≠ [] ∧ ∀ c ∈ ds, c.isDigit = true

/-- The text of a number between its whole digits and its exponent, and the decimals in it. -/
inductive Fraction : List Char → List Char → Prop where
  | none : Fraction [] []
  | point {ds : List Char} (h : Digits ds) : Fraction ('.' :: ds) ds

inductive Sign : List Char → Int → Prop where
  | none : Sign [] 1
  | plus : Sign ['+'] 1
  | minus : Sign ['-'] (-1)

inductive Exponent : List Char → Int → Prop where
  | none : Exponent [] 0
  | mark {m : Char} {sign ds : List Char} {i : Int} (hm : m = 'e' ∨ m = 'E') (hs : Sign sign i)
    (h : Digits ds) : Exponent (m :: (sign ++ ds)) (i * Decimal.digitsValue ds)

inductive Numeral : List Char → Decimal → Prop where
  | parts {whole fraction decimals exponent : List Char} {e : Int} (hw : Digits whole)
    (hf : Fraction fraction decimals) (he : Exponent exponent e) :
    Numeral (whole ++ (fraction ++ exponent))
      ⟨false, Decimal.digitsValue (whole ++ decimals), e - decimals.length⟩

def IsName : List Char → Prop
  | [] => False
  | c :: cs => isNameStart c = true ∧ ∀ d ∈ cs, isNamePart d = true

def IsQuote (c : Char) : Prop :=
  c = '"' ∨ c = '\x27'

instance : DecidablePred IsQuote := fun c => inferInstanceAs (Decidable (c = '"' ∨ c = '\x27'))

/-- What a character stands for after a backslash. -/
inductive Escape : Char → Char → Prop where
  | newline : Escape 'n' '\n'
  | tab : Escape 't' '\t'
  | self {c : Char} (hn : c ≠ 'n') (ht : c ≠ 't') : Escape c c

/-- The characters between two quotes and the payload that they stand for. The quote is among them
only after a backslash. -/
inductive Spells (quote : Char) : List Char → List Char → Prop where
  | nil : Spells quote [] []
  | escaped {c d : Char} {written payload : List Char} (hc : Escape c d)
    (h : Spells quote written payload) : Spells quote ('\\' :: c :: written) (d :: payload)
  | plain {c : Char} {written payload : List Char} (hq : c ≠ quote) (hb : c ≠ '\\')
    (h : Spells quote written payload) : Spells quote (c :: written) (c :: payload)

/-- The characters that a token of a kind is written with. -/
inductive Lexeme : TokenKind → List Char → Prop where
  | number {text : List Char} {d : Decimal} (h : Numeral text d) :
    Lexeme (.number d.toFloat) text
  | name {text : List Char} (h : IsName text) : Lexeme (.name (String.ofList text)) text
  | text {quote : Char} {written payload : List Char} (hq : IsQuote quote)
    (h : Spells quote written payload) :
    Lexeme (.text (String.ofList payload)) (quote :: (written ++ [quote]))
  | symbol (s : Symbol) : Lexeme (.symbol s) s.text.toList

theorem Lexeme.ne_finish {kind : TokenKind} {text : List Char} (h : Lexeme kind text) :
    kind ≠ .finish := by
  cases h <;> exact nofun

/-! ### First characters -/

theorem isDigit_of_isNameStart {c : Char} (h : isNameStart c = true) : c.isDigit = false := by
  refine Bool.eq_false_iff.mpr fun hdigit => ?_
  have hletter := isLetter_of_isDigit hdigit
  have hunderscore : c ≠ '_' := fun he => absurd (he ▸ hdigit) (by decide)
  have hdollar : c ≠ '$' := fun he => absurd (he ▸ hdigit) (by decide)
  simp [isNameStart, hletter, hunderscore, hdollar] at h

theorem IsQuote.isDigit_eq_false {c : Char} (h : IsQuote c) : c.isDigit = false := by
  rcases h with rfl | rfl <;> decide

theorem IsQuote.isNameStart_eq_false {c : Char} (h : IsQuote c) : isNameStart c = false := by
  rcases h with rfl | rfl <;> decide

theorem symbol_head (s : Symbol) : ∃ c cs, s.text.toList = c :: cs ∧ c.isDigit = false ∧
    isNameStart c = false ∧ ¬ IsQuote c ∧ isBlank c = false := by
  unfold IsQuote
  cases s <;> exact ⟨_, _, rfl, by decide, by decide, by decide, by decide⟩

theorem Digits.head {ds : List Char} (h : Digits ds) :
    ∃ c cs, ds = c :: cs ∧ c.isDigit = true := by
  obtain ⟨c, cs, rfl⟩ := List.exists_cons_of_ne_nil h.1
  exact ⟨c, cs, rfl, h.2 c List.mem_cons_self⟩

theorem Numeral.head {text : List Char} {d : Decimal} (h : Numeral text d) :
    ∃ c cs, text = c :: cs ∧ c.isDigit = true := by
  obtain ⟨hw, hf, he⟩ := h
  obtain ⟨c, cs, rfl, hc⟩ := hw.head
  exact ⟨c, _, rfl, hc⟩

theorem IsName.head {text : List Char} (h : IsName text) :
    ∃ c cs, text = c :: cs ∧ isNameStart c = true := by
  cases text with
  | nil => exact absurd h id
  | cons c cs => exact ⟨c, cs, rfl, h.1⟩

/-- A lexeme is of the kind that its first character tells. -/
theorem Lexeme.read {kind : TokenKind} {c : Char} {cs : List Char} (h : Lexeme kind (c :: cs)) :
    if c.isDigit then ∃ d, kind = .number d.toFloat ∧ Numeral (c :: cs) d
    else if isNameStart c then kind = .name (String.ofList (c :: cs)) ∧ IsName (c :: cs)
    else if IsQuote c then ∃ written payload, kind = .text (String.ofList payload) ∧
      cs = written ++ [c] ∧ Spells c written payload
    else ∃ s, kind = .symbol s ∧ s.text.toList = c :: cs := by
  generalize htext : c :: cs = text at h
  cases h with
  | number h =>
    obtain ⟨_, _, rfl, hdigit⟩ := h.head
    cases htext
    rw [if_pos hdigit]
    exact ⟨_, rfl, h⟩
  | name h =>
    obtain ⟨_, _, rfl, hstart⟩ := h.head
    cases htext
    rw [if_neg (by simp [isDigit_of_isNameStart hstart]), if_pos hstart]
    exact ⟨rfl, h⟩
  | text hq h =>
    cases htext
    rw [if_neg (by simp [hq.isDigit_eq_false]), if_neg (by simp [hq.isNameStart_eq_false]),
      if_pos hq]
    exact ⟨_, _, rfl, rfl, h⟩
  | symbol s =>
    obtain ⟨_, _, hs, hdigit, hstart, hquote, -⟩ := symbol_head s
    cases htext.trans hs
    rw [if_neg (by simp [hdigit]), if_neg (by simp [hstart]), if_neg hquote]
    exact ⟨s, rfl, rfl⟩

/-! ### Blanks -/

theorem isNamePart_of_isNameStart {c : Char} (h : isNameStart c = true) :
    isNamePart c = true := by
  simp only [isNameStart, isNamePart, Bool.or_eq_true] at h ⊢
  exact h.imp_left (Or.imp_left .inl)

theorem IsName.isNamePart {text : List Char} (h : IsName text) {c : Char} (hc : c ∈ text) :
    isNamePart c = true := by
  cases text with
  | nil => cases hc
  | cons d ds =>
    rcases List.mem_cons.mp hc with rfl | hc
    · exact isNamePart_of_isNameStart h.1
    · exact h.2 c hc

theorem isNamePart_of_isDigit {c : Char} (h : c.isDigit = true) : isNamePart c = true := by
  simp [isNamePart, isNumeral, h]

theorem isBlank_of_isNamePart {c : Char} (h : isNamePart c = true) : isBlank c = false := by
  refine Bool.eq_false_iff.mpr fun hblank => ?_
  have hunderscore : c ≠ '_' := fun he => absurd (he ▸ hblank) (by decide)
  have hdollar : c ≠ '$' := fun he => absurd (he ▸ hblank) (by decide)
  simp [isNamePart, isLetter_of_isBlank hblank, isNumeral_of_isBlank hblank, hunderscore,
    hdollar] at h

theorem Lexeme.head {kind : TokenKind} {text : List Char} (h : Lexeme kind text) :
    ∃ c cs, text = c :: cs ∧ isBlank c = false := by
  cases h with
  | number h =>
    obtain ⟨c, cs, rfl, hc⟩ := h.head
    exact ⟨c, cs, rfl, isBlank_of_isNamePart (isNamePart_of_isDigit hc)⟩
  | name h =>
    obtain ⟨c, cs, rfl, hc⟩ := h.head
    exact ⟨c, cs, rfl, isBlank_of_isNamePart (isNamePart_of_isNameStart hc)⟩
  | text hq => exact ⟨_, _, rfl, by rcases hq with rfl | rfl <;> decide⟩
  | symbol s =>
    obtain ⟨c, cs, hs, -, -, -, hblank⟩ := symbol_head s
    exact ⟨c, cs, hs, hblank⟩

end Token

end Stagewise
