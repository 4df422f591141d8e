import Mathlib.Data.List.Basic
import Stagewise.Text.Quoted

/-! Quoted texts can be told apart, and each is on one line. Every character is written in a way that
shows where it ends: as itself, as an escape of two characters, or in hexadecimal digits up to a
brace. -/

namespace Stagewise

/-- A front of characters of one kind ends where the first of another kind stands. -/
theorem append_cons_inj {p : Char → Bool} {cs ds rest rest' : List Char} {c d : Char}
    (hcs : ∀ a ∈ cs, p a = true) (hds : ∀ a ∈ ds, p a = true) (hc : p c = false) (hd : p d = false)
    (h : cs ++ c :: rest = ds ++ d :: rest') : cs = ds ∧ c = d ∧ rest = rest' := by
  have hfront := congrArg (List.takeWhile p) h
  have hrest := congrArg (List.dropWhile p) h
  rw [List.takeWhile_append_of_pos hcs, List.takeWhile_append_of_pos hds] at hfront
  rw [List.dropWhile_append_of_pos hcs, List.dropWhile_append_of_pos hds] at hrest
  simp only [List.takeWhile_cons, List.dropWhile_cons, hc, hd, Bool.false_eq_true, if_false,
    List.append_nil, List.cons.injEq] at hfront hrest
  exact ⟨hfront, hrest⟩

/-- The characters with an escape of their own, and what follows the backslash in it. -/
def letterEscapes : List (Char × Char) :=
  [('\x00', '0'), ('\t', 't'), ('\r', 'r'), ('\n', 'n'), ('\\', '\\'), ('"', '"')]

/-- How a quoted text writes a character. -/
inductive QuotedAs (c : Char) : List Char → Prop where
  | letter {l : Char} (h : (c, l) ∈ letterEscapes) : QuotedAs c ['\\', l]
  | digits : QuotedAs c ('\\' :: 'u' :: '\x7b' :: (hexDigits c ++ ['\x7d']))
  | plain (hb : c ≠ '\\') (hn : c ≠ '\n') : QuotedAs c [c]

theorem quotedAs_quotedChar (c : Char) : QuotedAs c (quotedChar c) := by
  unfold quotedChar
  split_ifs with h0 ht hr hn hb hq hu
  · exact .letter (by simp [letterEscapes, h0])
  · exact .letter (by simp [letterEscapes, ht])
  · exact .letter (by simp [letterEscapes, hr])
  · exact .letter (by simp [letterEscapes, hn])
  · exact .letter (by simp [letterEscapes, hb])
  · exact .letter (by simp [letterEscapes, hq])
  · exact .digits
  · exact .plain hb hn

theorem exists_of_mem_toDigits {b n : Nat} {c : Char} (hb : 1 < b) (h : c ∈ Nat.toDigits b n) :
    ∃ d < b, c = Nat.digitChar d := by
  induction n using Nat.strongRecOn with
  | ind n ih =>
    rw [Nat.toDigits_eq_if hb] at h
    split at h
    · exact ⟨n, ‹_›, List.mem_singleton.mp h⟩
    · rcases List.mem_append.mp h with h | h
      · exact ih _ (Nat.div_lt_self (by omega) hb) h
      · exact ⟨n % b, Nat.mod_lt n (by omega), List.mem_singleton.mp h⟩

theorem toDigits_injective {b : Nat} (hb : 1 < b) (hb' : b ≤ 16) :
    Function.Injective (Nat.toDigits b) := by
  have hdigit : ∀ m < 16, ∀ n < 16, Nat.digitChar m = Nat.digitChar n → m = n := by decide
  have hne (d : Nat) {n : Nat} {c : Char} : [Nat.digitChar d] ≠ Nat.toDigits b n ++ [c] := by
    intro h
    have hlength := congrArg List.length h
    have hpos : 0 < (Nat.toDigits b n).length := Nat.length_toDigits_pos
    rw [List.length_append, List.length_singleton, List.length_singleton] at hlength
    omega
  intro m n h
  induction m using Nat.strongRecOn generalizing n with
  | ind m ih =>
    rw [Nat.toDigits_eq_if hb, Nat.toDigits_eq_if (n := n) hb] at h
    split_ifs at h with hm hn hn
    · exact hdigit m (by omega) n (by omega) (List.singleton_inj.mp h)
    · exact absurd h (hne m)
    · exact absurd h.symm (hne n)
    · obtain ⟨hdiv, hmod⟩ := List.append_inj' h rfl
      have hdiv := ih (m / b) (Nat.div_lt_self (by omega) hb) hdiv
      have hmod := hdigit _ (Nat.lt_of_lt_of_le (Nat.mod_lt m (by omega)) hb') _
        (Nat.lt_of_lt_of_le (Nat.mod_lt n (by omega)) hb') (List.singleton_inj.mp hmod)
      rw [← Nat.div_add_mod m b, ← Nat.div_add_mod n b, hdiv, hmod]

theorem notMem_hexDigits {c d : Char} (hd : ∀ i < 16, Nat.digitChar i ≠ d) : d ∉ hexDigits c := by
  intro h
  obtain ⟨i, hi, rfl⟩ := exists_of_mem_toDigits (by decide) h
  exact hd i hi rfl

theorem hexDigits_injective : Function.Injective hexDigits :=
  (toDigits_injective (by decide) (by decide)).comp fun _ _ => Char.toNat_inj.mp

namespace QuotedAs

variable {c d : Char} {written written' rest rest' : List Char}

/-- What has been written begins with exactly one character. -/
theorem unique (h : QuotedAs c written) (h' : QuotedAs d written')
    (heq : written ++ rest = written' ++ rest') : c = d ∧ rest = rest' := by
  have hletters : ∀ p ∈ letterEscapes, p.2 ≠ 'u' ∧ ∀ q ∈ letterEscapes, p.2 = q.2 → p.1 = q.1 := by
    decide
  have hbrace (c : Char) : ∀ a ∈ hexDigits c, (a != '\x7d') = true := by
    intro a ha
    have hnot : '\x7d' ∉ hexDigits c := notMem_hexDigits (by decide)
    exact bne_iff_ne.mpr fun h => hnot (h ▸ ha)
  cases h with
  | letter h =>
    cases h' with
    | letter h' =>
      simp only [List.cons_append, List.nil_append, List.cons.injEq, true_and] at heq
      exact ⟨(hletters _ h).2 _ h' heq.1, heq.2⟩
    | digits =>
      simp only [List.cons_append, List.nil_append, List.cons.injEq, true_and] at heq
      exact absurd heq.1 (hletters _ h).1
    | plain hb => exact absurd (List.cons.inj heq).1.symm hb
  | digits =>
    cases h' with
    | letter h' =>
      simp only [List.cons_append, List.nil_append, List.cons.injEq, true_and] at heq
      exact absurd heq.1.symm (hletters _ h').1
    | digits =>
      simp only [List.cons_append, List.append_assoc, List.nil_append, List.cons.injEq,
        true_and] at heq
      obtain ⟨hdigits, -, hrest⟩ := append_cons_inj (hbrace c) (hbrace d) (by decide) (by decide) heq
      exact ⟨hexDigits_injective hdigits, hrest⟩
    | plain hb => exact absurd (List.cons.inj heq).1.symm hb
  | plain hb =>
    cases h' with
    | letter | digits => exact absurd (List.cons.inj heq).1 hb
    | plain => exact List.cons.inj heq

theorem ne_nil (h : QuotedAs c written) : written ≠ [] := by
  cases h <;> exact List.cons_ne_nil _ _

theorem newline_notMem (h : QuotedAs c written) : '\n' ∉ written := by
  cases h with
  | letter h =>
    have hletters : ∀ p ∈ letterEscapes, p.2 ≠ '\n' := by decide
    simpa using (hletters _ h).symm
  | digits =>
    have hdigits : '\n' ∉ hexDigits c := notMem_hexDigits (by decide)
    simpa using hdigits
  | plain _ hn => simpa using hn.symm

end QuotedAs

theorem quoted_injective : Function.Injective quoted := by
  have hflat : ∀ cs ds : List Char, cs.flatMap quotedChar = ds.flatMap quotedChar → cs = ds := by
    intro cs
    induction cs with
    | nil =>
      intro ds h
      cases ds with
      | nil => rfl
      | cons d ds =>
        exact absurd (List.append_eq_nil_iff.mp h.symm).1 (quotedAs_quotedChar d).ne_nil
    | cons c cs ih =>
      intro ds h
      cases ds with
      | nil => exact absurd (List.append_eq_nil_iff.mp h).1 (quotedAs_quotedChar c).ne_nil
      | cons d ds =>
        obtain ⟨rfl, hrest⟩ := (quotedAs_quotedChar c).unique (quotedAs_quotedChar d) h
        rw [ih ds hrest]
  intro s t h
  have hchars := (List.cons.inj (String.ofList_injective h)).2
  exact String.toList_injective (hflat _ _ (List.append_cancel_right hchars))

theorem newline_notMem_quoted (s : String) : '\n' ∉ (quoted s).toList := by
  have hflat : '\n' ∉ s.toList.flatMap quotedChar := by
    intro h
    obtain ⟨c, -, hc⟩ := List.mem_flatMap.mp h
    exact (quotedAs_quotedChar c).newline_notMem hc
  simpa [quoted] using hflat

end Stagewise
