import Mathlib.Data.List.DropRight
import Stagewise.Text.Blank

/-! Trimming leaves nothing of a text exactly when there is nothing but blanks in it, and it leaves
all that stands between two characters that are none. -/

namespace Stagewise

theorem trimBlanks_eq_nil_iff {cs : List Char} :
    trimBlanks cs = [] ↔ ∀ c ∈ cs, isBlank c = true := by
  have hleft : trimBlanks cs = [] ↔ ∀ c ∈ cs.dropWhile isBlank, isBlank c = true :=
    List.rdropWhile_eq_nil_iff
  rw [hleft]
  constructor
  · intro h c hc
    rw [← List.takeWhile_append_dropWhile (p := isBlank) (l := cs), List.mem_append] at hc
    rcases hc with hc | hc
    · exact List.mem_takeWhile_imp hc
    · exact h c hc
  · exact fun h c hc => h c ((List.dropWhile_suffix isBlank).mem hc)

theorem trimmed_eq_empty_iff {s : String} : trimmed s = "" ↔ isBlankText s = true := by
  rw [isBlankText, List.all_eq_true, ← trimBlanks_eq_nil_iff, trimmed, String.ofList_eq_empty_iff]

theorem mem_dropWhile_isBlank {cs : List Char} {c : Char} (h : isBlank c = false) :
    c ∈ cs.dropWhile isBlank ↔ c ∈ cs := by
  refine ⟨fun hc => (List.dropWhile_suffix isBlank).mem hc, fun hc => ?_⟩
  rw [← List.takeWhile_append_dropWhile (p := isBlank) (l := cs), List.mem_append] at hc
  refine hc.resolve_left fun hc => ?_
  rw [List.mem_takeWhile_imp hc] at h
  cases h

theorem dropWhile_isBlank_append_cons {c : Char} (h : isBlank c = false) (cs ds : List Char) :
    (cs ++ c :: ds).dropWhile isBlank = cs.dropWhile isBlank ++ c :: ds := by
  rw [List.dropWhile_append]
  split
  · rename_i hcs
    rw [List.isEmpty_iff.mp hcs, List.nil_append, List.dropWhile_cons_of_neg (by simp [h])]
  · rfl

theorem trimBlanks_between {a z : Char} (ha : isBlank a = false) (hz : isBlank z = false)
    (front inner back : List Char) :
    ∃ front' back', trimBlanks (front ++ a :: inner ++ z :: back) =
        front' ++ a :: inner ++ z :: back' ∧
      ∀ c, isBlank c = false → (c ∈ front' ↔ c ∈ front) ∧ (c ∈ back' ↔ c ∈ back) := by
  refine ⟨front.dropWhile isBlank, (back.reverse.dropWhile isBlank).reverse, ?_, fun c hc => ?_⟩
  · have hleft : (front ++ a :: inner ++ z :: back).dropWhile isBlank =
        front.dropWhile isBlank ++ a :: inner ++ z :: back := by
      rw [List.append_assoc, List.cons_append, dropWhile_isBlank_append_cons ha]
      simp
    have hright : (front.dropWhile isBlank ++ a :: inner ++ z :: back).reverse =
        back.reverse ++ z :: (front.dropWhile isBlank ++ a :: inner).reverse := by
      simp
    rw [trimBlanks, hleft, hright, dropWhile_isBlank_append_cons hz]
    simp
  · rw [List.mem_reverse, mem_dropWhile_isBlank hc, mem_dropWhile_isBlank hc, List.mem_reverse]
    exact ⟨.rfl, .rfl⟩

end Stagewise
