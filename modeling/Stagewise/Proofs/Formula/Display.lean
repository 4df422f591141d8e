import Stagewise.Formula.Value
import Stagewise.Proofs.Text.Quoted

/-! Literals can be told apart by the texts that show them, but for numbers that are shown alike. The
characters of a number are in no keyword and in front of no quoted text. -/

namespace Stagewise

/-- The characters that a number is shown with. -/
def isNumberChar (c : Char) : Bool :=
  c.isDigit || c ∈ ['-', '.', 'N', 'a', 'i', 'n', 'f']

theorem isNumberChar_of_isDigit {c : Char} (h : c.isDigit = true) : isNumberChar c = true := by
  rw [isNumberChar, h, Bool.true_or]

theorem isNumberChar_toDigits {n : Nat} : ∀ c ∈ Nat.toDigits 10 n, isNumberChar c = true :=
  fun _ hc => isNumberChar_of_isDigit (Nat.isDigit_of_mem_toDigits (by decide) (by decide) hc)

theorem isNumberChar_toString (i : Int) : ∀ c ∈ (toString i).toList, isNumberChar c = true := by
  rw [Int.toString_eq_repr, Int.repr_eq_if]
  split
  · rw [Nat.toList_repr]
    exact isNumberChar_toDigits
  · rw [String.toList_append, Nat.toList_repr]
    intro c hc
    rcases List.mem_append.mp hc with hc | hc
    · obtain rfl := List.mem_singleton.mp hc
      decide
    · exact isNumberChar_toDigits c hc

theorem isNumberChar_writePositional {ds : List Char} {e : Int}
    (hds : ∀ c ∈ ds, isNumberChar c = true) :
    ∀ c ∈ (plainLayout.writePositional ds e).toList, isNumberChar c = true := by
  have hzeros (n : Nat) : ∀ c ∈ List.replicate n '0', isNumberChar c = true := by
    intro c hc
    rw [List.eq_of_mem_replicate hc]
    decide
  intro c hc
  simp only [DecimalLayout.writePositional] at hc
  split_ifs at hc
  · simp only [plainLayout, String.append_empty, String.toList_ofList] at hc
    exact (List.mem_append.mp hc).elim (hds c) (hzeros _ c)
  · rw [String.toList_ofList] at hc
    rcases List.mem_append.mp hc with hc | hc
    · exact hds c (List.mem_of_mem_take hc)
    · rcases List.mem_cons.mp hc with rfl | hc
      · decide
      · exact hds c (List.mem_of_mem_drop hc)
  · rw [String.toList_ofList] at hc
    rcases List.mem_append.mp hc with hc | hc
    · rcases List.mem_cons.mp hc with rfl | hc
      · decide
      · rcases List.mem_cons.mp hc with rfl | hc
        · decide
        · exact hzeros _ c hc
    · exact hds c hc

theorem isNumberChar_writeDyad (d : Dyad) :
    ∀ c ∈ (plainLayout.writeDyad d).toList, isNumberChar c = true := by
  intro c hc
  rw [DecimalLayout.writeDyad, DecimalLayout.write, String.toList_append] at hc
  rcases List.mem_append.mp hc with hc | hc
  · split at hc
    · obtain rfl := List.mem_singleton.mp hc
      decide
    · cases hc
  · exact isNumberChar_writePositional isNumberChar_toDigits c hc

theorem isNumberChar_plain (x : Float) :
    ∀ c ∈ (Double.plain x).toList, isNumberChar c = true := by
  unfold Double.plain
  split
  · exact isNumberChar_writeDyad _
  · split_ifs <;> exact List.all_eq_true.mp (by decide)

theorem isNumberChar_numberText (x : Float) :
    ∀ c ∈ (Value.numberText x).toList, isNumberChar c = true := by
  unfold Value.numberText
  split
  · split_ifs
    · exact isNumberChar_toString _
    · exact isNumberChar_plain x
  · exact isNumberChar_plain x

theorem ne_numberText {s : String} (h : ∃ c ∈ s.toList, isNumberChar c = false) (x : Float) :
    s ≠ Value.numberText x := by
  rintro rfl
  obtain ⟨c, hc, hfalse⟩ := h
  exact absurd (isNumberChar_numberText x c hc) (Bool.eq_false_iff.mp hfalse)

theorem quote_mem_quoted (s : String) : '"' ∈ (quoted s).toList := by
  rw [quoted, String.toList_ofList]
  exact List.mem_append_right _ List.mem_cons_self

theorem ne_quoted {s : String} (h : '"' ∉ s.toList) (t : String) : s ≠ quoted t := by
  rintro rfl
  exact h (quote_mem_quoted t)

namespace Value

/-- The values that a literal can have. -/
inductive Scalar : Value → Prop where
  | null : Scalar null
  | bool (b : Bool) : Scalar (bool b)
  | number (x : Float) : Scalar (number x)
  | text (s : String) : Scalar (text s)

/-- The same value, or two numbers that are shown by the same text. -/
inductive ShownAlike : Value → Value → Prop where
  | same (v : Value) : ShownAlike v v
  | number {x y : Float} (h : numberText x = numberText y) : ShownAlike (number x) (number y)

/-- Values that are shown by the same text are the same, unless both are numbers. -/
theorem shownAlike_of_display {v w : Value} (hv : Scalar v) (hw : Scalar w)
    (h : v.display = w.display) : ShownAlike v w := by
  have hnull : ∃ c ∈ null.display.toList, isNumberChar c = false := ⟨'u', by decide, by decide⟩
  have hbool (b : Bool) : ∃ c ∈ (bool b).display.toList, isNumberChar c = false :=
    ⟨'e', by cases b <;> decide, by decide⟩
  have hquote (b : Bool) : '"' ∉ (bool b).display.toList := by cases b <;> decide
  have hquoted (s : String) : ∃ c ∈ (text s).display.toList, isNumberChar c = false :=
    ⟨'"', quote_mem_quoted s, by decide⟩
  cases hv with
  | null =>
    cases hw with
    | null => exact .same _
    | bool b => cases b <;> exact absurd h (by decide)
    | number x => exact absurd h (ne_numberText hnull x)
    | text s => exact absurd h (ne_quoted (by decide) s)
  | bool b =>
    cases hw with
    | null => cases b <;> exact absurd h (by decide)
    | bool b' =>
      obtain rfl : b = b' := by revert h; cases b <;> cases b' <;> decide
      exact .same _
    | number x => exact absurd h (ne_numberText (hbool b) x)
    | text s => exact absurd h (ne_quoted (hquote b) s)
  | number x =>
    cases hw with
    | null => exact absurd h.symm (ne_numberText hnull x)
    | bool b => exact absurd h.symm (ne_numberText (hbool b) x)
    | number y => exact .number h
    | text s => exact absurd h.symm (ne_numberText (hquoted s) x)
  | text s =>
    cases hw with
    | null => exact absurd h.symm (ne_quoted (by decide) s)
    | bool b => exact absurd h.symm (ne_quoted (hquote b) s)
    | number x => exact absurd h (ne_numberText (hquoted s) x)
    | text s' =>
      obtain rfl := quoted_injective h
      exact .same _

theorem Scalar.newline_notMem_display {v : Value} (h : Scalar v) : '\n' ∉ v.display.toList := by
  cases h with
  | null => decide
  | bool b => cases b <;> decide
  | number x => exact fun hn => absurd (isNumberChar_numberText x _ hn) (by decide)
  | text s => exact newline_notMem_quoted s

end Value

end Stagewise
