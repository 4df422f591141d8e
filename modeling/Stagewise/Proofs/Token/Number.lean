import Stagewise.Proofs.Token.Longest

/-! The scanner of numbers takes the longest number at the front of a text, and every number has a
value. -/

namespace Stagewise

namespace Token

theorem fractionText_point (cs : List Char) : fractionText ('.' :: cs) =
    if cs.takeWhile Char.isDigit = [] then [] else '.' :: cs.takeWhile Char.isDigit := by
  cases h : cs.takeWhile Char.isDigit <;> simp [fractionText, h]

theorem fractionText_of_ne {c : Char} (cs : List Char) (h : c ≠ '.') :
    fractionText (c :: cs) = [] := by
  unfold fractionText
  split
  · rename_i heq
    exact absurd (List.cons.inj heq).1 h
  · rfl

theorem longest_fraction (cs : List Char) :
    Longest (fun t => ∃ ds, Fraction t ds) (fractionText cs) cs := by
  have hle : ∀ t, (∃ ds, Fraction t ds) → t <+: cs → t.length ≤ (fractionText cs).length := by
    rintro t ⟨ds, ht⟩ ⟨rest, rfl⟩
    cases ht with
    | none => exact Nat.zero_le _
    | point h =>
      have hfront := List.prefix_append ds rest
      rw [List.cons_append, fractionText_point, if_neg (h.takeWhile_ne_nil hfront)]
      exact Nat.succ_le_succ (length_le_takeWhile h.2 hfront)
  refine .of_nil_or ⟨[], .none⟩ hle ?_
  cases cs with
  | nil => exact .inl rfl
  | cons c cs =>
    by_cases hc : c = '.'
    · subst hc
      have htext := fractionText_point cs
      by_cases hds : cs.takeWhile Char.isDigit = []
      · exact .inl (by rw [htext, if_pos hds])
      · have hlongest := longest_digits hds
        rw [htext, if_neg hds]
        exact .inr ⟨⟨_, .point hlongest.holds⟩, List.cons_prefix_cons.mpr ⟨rfl, hlongest.front⟩⟩
    · exact .inl (fractionText_of_ne cs hc)

theorem exists_sign (cs : List Char) : ∃ sign i rest, cs = sign ++ rest ∧ Sign sign i ∧
    (sign = [] → ∀ c t, rest = c :: t → c ≠ '+' ∧ c ≠ '-') := by
  cases cs with
  | nil => exact ⟨[], 1, [], rfl, .none, fun _ _ _ h => nomatch h⟩
  | cons c t =>
    by_cases hplus : c = '+'
    · exact ⟨['+'], 1, t, by simp [hplus], .plus, nofun⟩
    by_cases hminus : c = '-'
    · exact ⟨['-'], -1, t, by simp [hminus], .minus, nofun⟩
    refine ⟨[], 1, c :: t, rfl, .none, fun _ d u h => ?_⟩
    obtain ⟨rfl, rfl⟩ := List.cons.inj h
    exact ⟨hplus, hminus⟩

theorem exponentText_mark {m : Char} {sign rest : List Char} {i : Int} (hm : m = 'e' ∨ m = 'E')
    (hs : Sign sign i) (hrest : sign = [] → ∀ c t, rest = c :: t → c ≠ '+' ∧ c ≠ '-') :
    exponentText (m :: (sign ++ rest)) = if rest.takeWhile Char.isDigit = [] then []
      else m :: (sign ++ rest.takeWhile Char.isDigit) := by
  unfold exponentText
  cases hs with
  | plus => cases h : rest.takeWhile Char.isDigit <;> simp [hm, h]
  | minus => cases h : rest.takeWhile Char.isDigit <;> simp [hm, h]
  | none =>
    cases rest with
    | nil => simp
    | cons c t =>
      obtain ⟨hplus, hminus⟩ := hrest rfl c t rfl
      cases h : (c :: t).takeWhile Char.isDigit <;> simp [hm, hplus, hminus, h]

theorem Digits.head_ne_sign {ds : List Char} (h : Digits ds) (rest : List Char) (c : Char)
    (t : List Char) (he : ds ++ rest = c :: t) : c ≠ '+' ∧ c ≠ '-' := by
  obtain ⟨d, u, rfl, hd⟩ := h.head
  obtain ⟨rfl, -⟩ := List.cons.inj he
  exact ⟨fun hc => absurd (hc ▸ hd) (by decide), fun hc => absurd (hc ▸ hd) (by decide)⟩

theorem longest_exponent (cs : List Char) :
    Longest (fun t => ∃ e, Exponent t e) (exponentText cs) cs := by
  have hle : ∀ t, (∃ e, Exponent t e) → t <+: cs → t.length ≤ (exponentText cs).length := by
    rintro t ⟨e, ht⟩ ⟨rest, rfl⟩
    cases ht with
    | none => exact Nat.zero_le _
    | @mark m sign ds i hm hs h =>
      have hne := h.takeWhile_ne_nil (List.prefix_append ds rest)
      have hlength := length_le_takeWhile h.2 (List.prefix_append ds rest)
      rw [List.cons_append, List.append_assoc,
        exponentText_mark hm hs fun _ => h.head_ne_sign rest, if_neg hne]
      simp only [List.length_cons, List.length_append]
      omega
  refine .of_nil_or ⟨0, .none⟩ hle ?_
  cases cs with
  | nil => exact .inl rfl
  | cons m cs =>
    by_cases hm : m = 'e' ∨ m = 'E'
    · obtain ⟨sign, i, rest, rfl, hs, hrest⟩ := exists_sign cs
      have htext := exponentText_mark hm hs hrest
      by_cases hds : rest.takeWhile Char.isDigit = []
      · exact .inl (by rw [htext, if_pos hds])
      · have hlongest := longest_digits hds
        rw [htext, if_neg hds]
        refine .inr ⟨⟨_, .mark hm hs hlongest.holds⟩, List.cons_prefix_cons.mpr ⟨rfl, ?_⟩⟩
        exact (List.prefix_append_right_inj sign).mpr hlongest.front
    · exact .inl (by simp [exponentText, hm])

theorem Exponent.head {c : Char} {t : List Char} {e : Int} (h : Exponent (c :: t) e) :
    c = 'e' ∨ c = 'E' := by
  cases h with
  | mark hm => exact hm

theorem Fraction.head {c : Char} {t ds : List Char} (h : Fraction (c :: t) ds) : c = '.' := by
  cases h with
  | point => rfl

theorem Fraction.mem {t ds : List Char} (h : Fraction t ds) {c : Char} (hc : c ∈ t) :
    c = '.' ∨ c.isDigit = true := by
  cases h with
  | none => cases hc
  | point h => exact (List.mem_cons.mp hc).imp id (h.2 c)

/-- What comes after the whole digits of a number. -/
def Tail (t : List Char) : Prop :=
  ∃ u v, t = u ++ v ∧ (∃ ds, Fraction u ds) ∧ ∃ e, Exponent v e

theorem Tail.head {c : Char} {t : List Char} (h : Tail (c :: t)) : c.isDigit = false := by
  obtain ⟨u, v, ht, ⟨ds, hu⟩, e, hv⟩ := h
  cases u with
  | nil =>
    rw [List.nil_append] at ht
    rcases (ht ▸ hv).head with rfl | rfl <;> decide
  | cons d u =>
    obtain ⟨rfl, -⟩ := List.cons.inj ht
    rw [hu.head]
    decide

theorem longest_tail (cs : List Char) :
    Longest Tail (fractionText cs ++ exponentText (cs.drop (fractionText cs).length)) cs := by
  have hfraction := longest_fraction cs
  refine hfraction.append (longest_exponent _) ?_ fun t => Iff.rfl
  rintro c t ⟨e, ht⟩ hmem
  obtain ⟨ds, hds⟩ := hfraction.holds
  rcases ht.head with rfl | rfl <;> rcases hds.mem hmem with h | h <;> exact absurd h (by decide)

theorem longest_number {c : Char} (cs : List Char) (hc : c.isDigit = true) :
    Longest (fun t => ∃ d, Numeral t d) (numberText (c :: cs)) (c :: cs) := by
  have hwhole := longest_digits (takeWhile_ne_nil (p := Char.isDigit) cs hc)
  unfold numberText
  rw [List.append_assoc]
  refine hwhole.append (longest_tail _) ?_ fun t => ?_
  · intro d t ht hmem
    have hdigit := hwhole.holds.2 d hmem
    rw [ht.head] at hdigit
    cases hdigit
  · constructor
    · rintro ⟨d, hw, hf, he⟩
      exact ⟨_, _, rfl, hw, _, _, rfl, ⟨_, hf⟩, _, he⟩
    · rintro ⟨w, _, rfl, hw, f, e, rfl, ⟨_, hf⟩, _, he⟩
      exact ⟨_, .parts hw hf he⟩

/-! ### Values -/

theorem split_digits {ds rest : List Char} (h : ∀ c ∈ ds, c.isDigit = true)
    (hrest : ∀ c t, rest = c :: t → c.isDigit = false) :
    (ds ++ rest).takeWhile Char.isDigit = ds ∧ (ds ++ rest).dropWhile Char.isDigit = rest := by
  rw [List.takeWhile_append_of_pos h, List.dropWhile_append_of_pos h]
  cases rest with
  | nil => simp
  | cons c t => simp [hrest c t rfl]

theorem Digits.digits? {ds : List Char} (h : Digits ds) :
    Decimal.digits? ds = some (Decimal.digitsValue ds) := by
  rw [Decimal.digits?, if_pos ⟨h.1, List.all_eq_true.mpr h.2⟩]

theorem Exponent.exponent? {text : List Char} {e : Int} (h : Exponent text e) :
    Decimal.exponent? text = some e := by
  cases h with
  | none => rfl
  | mark hm hs h =>
    cases hs with
    | plus => simp [Decimal.exponent?, hm, h.digits?]
    | minus => simp [Decimal.exponent?, hm, h.digits?]
    | none =>
      obtain ⟨c, t, rfl, hc⟩ := h.head
      have := h.head_ne_sign [] c t (List.append_nil _)
      simp [Decimal.exponent?, hm, this, h.digits?]

theorem Exponent.ne_digit {text : List Char} {e : Int} (h : Exponent text e) (c : Char)
    (t : List Char) (he : text = c :: t) : c.isDigit = false := by
  rcases (he ▸ h).head with rfl | rfl <;> decide

theorem ofChars?_of_isDigit {c : Char} (cs : List Char) (h : c.isDigit = true) :
    Decimal.ofChars? (c :: cs) = Decimal.unsigned? false (c :: cs) := by
  unfold Decimal.ofChars?
  split
  · rename_i heq
    exact absurd ((List.cons.inj heq).1 ▸ h) (by decide)
  · rename_i heq
    exact absurd ((List.cons.inj heq).1 ▸ h) (by decide)
  · rfl

theorem Numeral.ofChars? {text : List Char} {d : Decimal} (h : Numeral text d) :
    Decimal.ofChars? text = some d := by
  obtain ⟨c, cs, htext, hc⟩ := h.head
  rw [htext, ofChars?_of_isDigit cs hc, ← htext]
  obtain ⟨hw, hf, he⟩ := h
  rename_i whole fraction decimals exponent e
  have hwhole : whole.isEmpty = false := by simpa using hw.1
  cases hf with
  | none =>
    obtain ⟨htake, hdrop⟩ := split_digits hw.2 he.ne_digit
    have hpoint : ∀ rest, exponent = '.' :: rest → False := fun rest hrest => by
      rcases (hrest ▸ he).head with h | h <;> exact absurd h (by decide)
    unfold Decimal.unsigned?
    simp [htake, hdrop, hwhole, he.exponent?]
  | point h =>
    have hpoint : ∀ c t, '.' :: (decimals ++ exponent) = c :: t → c.isDigit = false := by
      intro c t he
      rw [← (List.cons.inj he).1]
      decide
    obtain ⟨htake, hdrop⟩ := split_digits hw.2 hpoint
    obtain ⟨htake', hdrop'⟩ := split_digits h.2 he.ne_digit
    unfold Decimal.unsigned?
    simp [htake, hdrop, htake', hdrop', hwhole, he.exponent?]

end Token

end Stagewise
