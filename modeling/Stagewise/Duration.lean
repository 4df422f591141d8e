/-! Spans of time in milliseconds, and their text: in seconds from one second on, without zeros at
the end of a fraction. -/

namespace Stagewise

structure Duration where
  milliseconds : Nat
deriving DecidableEq

namespace Duration

/-- A fraction of a thousand after its point, and nothing for none. -/
def fractionText (n : Nat) : String :=
  if n = 0 then ""
  else
    let ds := (Nat.toDigits 10 (1000 + n)).drop 1
    "." ++ String.ofList (ds.reverse.dropWhile (· == '0')).reverse

def text (d : Duration) : String :=
  if 1000 ≤ d.milliseconds then
    toString (d.milliseconds / 1000) ++ fractionText (d.milliseconds % 1000) ++ "s"
  else if 0 < d.milliseconds then toString d.milliseconds ++ "ms"
  else "0ns"

/-- What is written for so many thousandths after whole seconds: as many digits as are needed. -/
inductive Fraction : Nat → String → Prop
  | none : Fraction 0 ""
  | tenths {a : Nat} (ha : a < 10) (last : a ≠ 0) : Fraction (100 * a) ("." ++ toString a)
  | hundredths {a b : Nat} (ha : a < 10) (hb : b < 10) (last : b ≠ 0) :
      Fraction (100 * a + 10 * b) ("." ++ toString a ++ toString b)
  | thousandths {a b c : Nat} (ha : a < 10) (hb : b < 10) (hc : c < 10) (last : c ≠ 0) :
      Fraction (100 * a + 10 * b + c) ("." ++ toString a ++ toString b ++ toString c)

/-- How a span is written: in whole milliseconds below one second, in seconds from there on. -/
inductive Written : Duration → String → Prop
  | zero : Written ⟨0⟩ "0ns"
  | milliseconds {n : Nat} (pos : 0 < n) (short : n < 1000) : Written ⟨n⟩ (toString n ++ "ms")
  | seconds {n thousandths : Nat} {fraction : String} (pos : 0 < n) (short : thousandths < 1000)
      (rest : Fraction thousandths fraction) :
      Written ⟨1000 * n + thousandths⟩ (toString n ++ fraction ++ "s")

theorem fractionText_digits {a b c : Nat} (ha : a < 10) (hb : b < 10) (hc : c < 10)
    (h : 100 * a + 10 * b + c ≠ 0) :
    fractionText (100 * a + 10 * b + c) =
      "." ++ String.ofList
        ([Nat.digitChar c, Nat.digitChar b, Nat.digitChar a].dropWhile (· == '0')).reverse := by
  have hsum : 1000 + (100 * a + 10 * b + c) = 10 * (10 * (10 * 1 + a) + b) + c := by omega
  have hlast {m d : Nat} (hm : 0 < m) (hd : d < 10) :
      Nat.toDigits 10 (10 * m + d) = Nat.toDigits 10 m ++ [Nat.digitChar d] := by
    rw [← Nat.toDigits_append_toDigits (by decide) hm hd, Nat.toDigits_of_lt_base hd]
  rw [fractionText, if_neg h, hsum, hlast (by omega) hc, hlast (by omega) hb, hlast (by omega) ha]
  rfl

theorem Fraction.eq_fractionText {n : Nat} {text : String} (h : Fraction n text) :
    text = fractionText n := by
  have hzero : (Nat.digitChar 0 == '0') = true := rfl
  have hnonzero : ∀ d < 10, d ≠ 0 → (Nat.digitChar d == '0') = false := by decide
  have hdigit {d : Nat} (hd : d < 10) : toString d = String.ofList [Nat.digitChar d] := by
    rw [Nat.toString_eq_repr, Nat.repr, Nat.toDigits_of_lt_base hd]
  cases h with
  | none => rfl
  | @tenths a ha last =>
    have htext := fractionText_digits ha (b := 0) (c := 0) (by decide) (by decide) (by omega)
    simp only [Nat.mul_zero, Nat.add_zero] at htext
    rw [htext, hdigit ha]
    simp [hnonzero a ha last, hzero]
  | @hundredths a b ha hb last =>
    have htext := fractionText_digits ha hb (c := 0) (by decide) (by omega)
    rw [Nat.add_zero] at htext
    rw [htext, hdigit ha, hdigit hb]
    exact String.toList_inj.mp (by simp [hnonzero b hb last, hzero])
  | @thousandths a b c ha hb hc last =>
    rw [fractionText_digits ha hb hc (by omega), hdigit ha, hdigit hb, hdigit hc]
    exact String.toList_inj.mp (by simp [hnonzero c hc last])

theorem exists_fraction {n : Nat} (h : n < 1000) : ∃ text, Fraction n text := by
  obtain ⟨a, b, c, ha, hb, hc, rfl⟩ :
      ∃ a b c, a < 10 ∧ b < 10 ∧ c < 10 ∧ n = 100 * a + 10 * b + c :=
    ⟨n / 100, n / 10 % 10, n % 10, by omega, by omega, by omega, by omega⟩
  by_cases hlast : c = 0
  · subst hlast
    by_cases hmiddle : b = 0
    · subst hmiddle
      by_cases hfirst : a = 0
      · subst hfirst
        exact ⟨_, .none⟩
      · exact ⟨_, .tenths ha hfirst⟩
    · exact ⟨_, .hundredths ha hb hmiddle⟩
  · exact ⟨_, .thousandths ha hb hc hlast⟩

theorem Written.eq_text {d : Duration} {s : String} (h : d.Written s) : s = d.text := by
  cases h with
  | zero => rfl
  | milliseconds pos short => rw [text, if_neg (Nat.not_le.mpr short), if_pos pos]
  | @seconds n thousandths _ pos short rest =>
    have hle : 1000 ≤ 1000 * n + thousandths := by omega
    have hdiv : (1000 * n + thousandths) / 1000 = n := by omega
    have hmod : (1000 * n + thousandths) % 1000 = thousandths := by omega
    rw [text, if_pos hle, hdiv, hmod, rest.eq_fractionText]

theorem exists_written (d : Duration) : ∃ s, d.Written s := by
  obtain ⟨n⟩ := d
  by_cases hshort : n < 1000
  · by_cases hpos : 0 < n
    · exact ⟨_, .milliseconds hpos hshort⟩
    · obtain rfl : n = 0 := by omega
      exact ⟨_, .zero⟩
  · have hmod : n % 1000 < 1000 := Nat.mod_lt n (by decide)
    obtain ⟨fraction, hfraction⟩ := exists_fraction hmod
    have hwritten := Written.seconds (n := n / 1000) (by omega) hmod hfraction
    rw [Nat.div_add_mod] at hwritten
    exact ⟨_, hwritten⟩

theorem written_iff {d : Duration} {s : String} : d.Written s ↔ s = d.text := by
  refine ⟨Written.eq_text, ?_⟩
  rintro rfl
  obtain ⟨s, hs⟩ := exists_written d
  exact hs.eq_text ▸ hs

end Duration

end Stagewise
