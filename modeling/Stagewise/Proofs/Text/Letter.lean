import Stagewise.Text.Blank
import Stagewise.Text.Letter

/-! Letters, digits and blanks are different characters, and no blank is a numeral. The blanks above
ASCII lie between the ranges of the tables. -/

namespace Stagewise

theorem toNat_of_isAlpha {c : Char} (h : c.isAlpha = true) :
    (65 ≤ c.toNat ∧ c.toNat ≤ 90) ∨ (97 ≤ c.toNat ∧ c.toNat ≤ 122) := by
  change (decide (65 ≤ c.val ∧ c.val ≤ 90) || (decide (97 ≤ c.val) && decide (c.val ≤ 122))) = true
    at h
  simpa [UInt32.le_iff_toNat_le] using h

theorem toNat_of_isDigit {c : Char} (h : c.isDigit = true) : 48 ≤ c.toNat ∧ c.toNat ≤ 57 := by
  simpa [Char.isDigit, UInt32.le_iff_toNat_le] using h

/-- The code points of the blanks above ASCII. -/
def blankRanges : List (Nat × Nat) :=
  [(0x85, 0x85), (0xa0, 0xa0), (0x1680, 0x1680), (0x2000, 0x200a), (0x2028, 0x2029),
    (0x202f, 0x202f), (0x205f, 0x205f), (0x3000, 0x3000)]

theorem toNat_of_isBlank {c : Char} (h : isBlank c = true) :
    (9 ≤ c.toNat ∧ c.toNat ≤ 13) ∨ c.toNat = 32 ∨
      ∃ blank ∈ blankRanges, blank.1 ≤ c.toNat ∧ c.toNat ≤ blank.2 := by
  unfold isBlank at h
  simp only [Bool.or_eq_true, Bool.and_eq_true, decide_eq_true_eq, beq_iff_eq] at h
  simp only [blankRanges, List.mem_cons, List.not_mem_nil, or_false, exists_eq_or_imp,
    exists_eq_left]
  omega

theorem toNat_le_or_le_of_isBlank {c : Char} (h : isBlank c = true) :
    c.toNat ≤ 0x20 ∨ 0x80 ≤ c.toNat := by
  have hhigh : ∀ blank ∈ blankRanges, 0x80 ≤ blank.1 := by decide
  rcases toNat_of_isBlank h with h | h | ⟨blank, hblank, h⟩
  · omega
  · omega
  · exact .inr (Nat.le_trans (hhigh blank hblank) h.1)

/-- Whether no blank above ASCII is in a table. -/
def avoidsBlanks (table : Array (Nat × Nat)) : Bool :=
  table.toList.all fun range => blankRanges.all fun blank =>
    Nat.blt range.2 blank.1 || Nat.blt blank.2 range.1

theorem inRanges_of_isBlank {table : Array (Nat × Nat)} (h : avoidsBlanks table = true) {c : Char}
    (hc : isBlank c = true) : inRanges table c = false := by
  rcases toNat_of_isBlank hc with hc | hc | ⟨blank, hblank, hc⟩
  · exact inRanges_eq_false_of_ascii table (by omega)
  · exact inRanges_eq_false_of_ascii table (by omega)
  · simp only [inRanges, ← Array.any_toList, Bool.and_eq_false_imp, List.any_eq_false,
      decide_eq_true_eq, Bool.and_eq_true]
    intro _ range hrange
    have := List.all_eq_true.mp (List.all_eq_true.mp h range hrange) blank hblank
    simp only [Bool.or_eq_true, Nat.blt_eq] at this
    omega

theorem isLetter_of_isBlank {c : Char} (h : isBlank c = true) : isLetter c = false := by
  have htable := inRanges_of_isBlank (show avoidsBlanks alphabeticRanges by decide +kernel) h
  have halpha : c.isAlpha = false := by
    refine Bool.eq_false_iff.mpr fun halpha => ?_
    have := toNat_of_isAlpha halpha
    have := toNat_le_or_le_of_isBlank h
    omega
  rw [isLetter, halpha, htable, Bool.or_false]

theorem isNumeral_of_isBlank {c : Char} (h : isBlank c = true) : isNumeral c = false := by
  have htable := inRanges_of_isBlank (show avoidsBlanks numeralRanges by decide +kernel) h
  have hdigit : c.isDigit = false := by
    refine Bool.eq_false_iff.mpr fun hdigit => ?_
    have := toNat_of_isDigit hdigit
    have := toNat_le_or_le_of_isBlank h
    omega
  rw [isNumeral, hdigit, htable, Bool.or_false]

theorem isLetter_of_isDigit {c : Char} (h : c.isDigit = true) : isLetter c = false := by
  have hdigit := toNat_of_isDigit h
  have halpha : c.isAlpha = false := by
    refine Bool.eq_false_iff.mpr fun halpha => ?_
    have := toNat_of_isAlpha halpha
    omega
  rw [isLetter, halpha, inRanges_eq_false_of_ascii _ (by omega), Bool.or_false]

end Stagewise
