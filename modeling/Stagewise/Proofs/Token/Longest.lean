import Mathlib.Data.List.TakeWhile
import Stagewise.Proofs.Token.Lexeme

/-! Longest texts of a form at the front of a text. A text of two parts is the longest of its form
if each part is, and nothing that the second part may start with is in the first. -/

namespace Stagewise

namespace Token

/-- A text of a form at the front of another, where none of that form is longer. -/
structure Longest (form : List Char → Prop) (text cs : List Char) : Prop where
  holds : form text
  front : text <+: cs
  le : ∀ longer, form longer → longer <+: cs → longer.length ≤ text.length

theorem Longest.unique {form : List Char → Prop} {a b cs : List Char} (ha : Longest form a cs)
    (hb : Longest form b cs) : a = b :=
  (List.prefix_of_prefix_length_le ha.front hb.front (hb.le a ha.holds ha.front)).eq_of_length_le
    (ha.le b hb.holds hb.front)

theorem Longest.of_nil_or {form : List Char → Prop} {text cs : List Char} (hnil : form [])
    (hle : ∀ longer, form longer → longer <+: cs → longer.length ≤ text.length)
    (h : text = [] ∨ form text ∧ text <+: cs) : Longest form text cs := by
  rcases h with rfl | ⟨hform, hfront⟩
  · exact ⟨hnil, List.nil_prefix, hle⟩
  · exact ⟨hform, hfront, hle⟩

theorem Longest.append {first second form : List Char → Prop} {a b cs : List Char}
    (ha : Longest first a cs) (hb : Longest second b (cs.drop a.length))
    (hseam : ∀ c t, second (c :: t) → c ∉ a)
    (hform : ∀ t, form t ↔ ∃ u v, t = u ++ v ∧ first u ∧ second v) :
    Longest form (a ++ b) cs := by
  obtain ⟨rest, rfl⟩ := ha.front
  simp only [List.drop_left] at hb
  refine ⟨(hform _).mpr ⟨a, b, rfl, ha.holds, hb.holds⟩, ?_, ?_⟩
  · exact List.prefix_append_right_inj a |>.mpr hb.front
  · intro longer hlonger hfront
    obtain ⟨u, v, rfl, hu, hv⟩ := (hform longer).mp hlonger
    have hlength := ha.le u hu ((List.prefix_append u v).trans hfront)
    rw [List.length_append, List.length_append]
    rcases Nat.lt_or_eq_of_le hlength with hlt | heq
    · cases v with
      | nil => simp only [List.length_nil]; omega
      | cons c t =>
        have hc : u ++ [c] <+: a ++ rest :=
          (List.prefix_append_right_inj u |>.mpr ⟨t, rfl⟩).trans hfront
        have hmem : u ++ [c] <+: a :=
          List.prefix_of_prefix_length_le hc (List.prefix_append a rest)
            (by simpa using Nat.succ_le_of_lt hlt)
        exact absurd (hmem.subset (by simp)) (hseam c t hv)
    · obtain rfl : u = a := (List.prefix_of_prefix_length_le ((List.prefix_append u v).trans hfront)
        (List.prefix_append a rest) hlength).eq_of_length heq
      have := hb.le v hv ((List.prefix_append_right_inj u).mp hfront)
      omega

theorem length_le_takeWhile {p : Char → Bool} {cs ds : List Char} (h : ∀ c ∈ ds, p c = true)
    (hfront : ds <+: cs) : ds.length ≤ (cs.takeWhile p).length := by
  obtain ⟨rest, rfl⟩ := hfront
  rw [List.takeWhile_append_of_pos h, List.length_append]
  exact Nat.le_add_right _ _

theorem longest_digits {cs : List Char} (h : cs.takeWhile Char.isDigit ≠ []) :
    Longest Digits (cs.takeWhile Char.isDigit) cs :=
  ⟨⟨h, fun _ hc => List.mem_takeWhile_imp hc⟩, List.takeWhile_prefix _,
    fun _ hlonger hfront => length_le_takeWhile hlonger.2 hfront⟩

theorem Digits.takeWhile_ne_nil {ds cs : List Char} (h : Digits ds) (hfront : ds <+: cs) :
    cs.takeWhile Char.isDigit ≠ [] := by
  have hpos := List.length_pos_iff.mpr h.1
  have hle := length_le_takeWhile h.2 hfront
  exact List.ne_nil_of_length_pos (Nat.lt_of_lt_of_le hpos hle)

end Token

end Stagewise
