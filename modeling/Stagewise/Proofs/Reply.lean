import Stagewise.Proofs.Json.Locality
import Stagewise.Proofs.Text.Blank
import Stagewise.Reply

/-! The object that a reply holds in the middle of other text. It is found when no closing brace
comes after it, and with such a brace, whatever the prose is, nothing is found at all. -/

namespace Stagewise

namespace Reply

/-- The braces that count are the first opening and the last closing one. -/
theorem braced_between {front back : List Char} (hfront : '\x7b' ∉ front) (hback : '\x7d' ∉ back)
    (inner : List Char) :
    braced (front ++ '\x7b' :: inner ++ '\x7d' :: back) = '\x7b' :: inner ++ ['\x7d'] := by
  have hopening : ∀ c ∈ front, decide (c ≠ '\x7b') = true :=
    fun c hc => decide_eq_true fun h => hfront (h ▸ hc)
  have hclosing : ∀ c ∈ back.reverse, decide (c ≠ '\x7d') = true :=
    fun c hc => decide_eq_true fun h => hback (h ▸ List.mem_reverse.mp hc)
  have hleft : (front ++ '\x7b' :: inner ++ '\x7d' :: back).dropWhile (· ≠ '\x7b') =
      '\x7b' :: inner ++ '\x7d' :: back := by
    rw [List.append_assoc, List.dropWhile_append_of_pos hopening]
    rfl
  have hright : ('\x7b' :: inner ++ '\x7d' :: back).reverse =
      back.reverse ++ '\x7d' :: ('\x7b' :: inner).reverse := by
    simp
  have hlast : (back.reverse ++ '\x7d' :: ('\x7b' :: inner).reverse).dropWhile (· ≠ '\x7d') =
      '\x7d' :: ('\x7b' :: inner).reverse := by
    rw [List.dropWhile_append_of_pos hclosing]
    rfl
  rw [braced, hleft, hright, hlast]
  simp

theorem extractChars_of_braced {cs inner : List Char} {z : Char} (hwhole : Json.ofChars? cs = none)
    (hbraced : braced cs = inner ++ [z]) :
    extractChars cs =
      match Json.ofChars? (inner ++ [z]) with
      | some json => .ok json
      | none => .error (.invalidJson Json.brokenText) := by
  have hcs : cs ≠ [] := by
    rintro rfl
    exact absurd hbraced (by simp [braced])
  unfold extractChars
  rw [if_neg (by simpa using hcs), hwhole, hbraced]
  exact if_neg (by simp)

theorem exists_last {c : Char} {cs : List Char} (h : c ∈ cs) :
    ∃ front back, cs = front ++ c :: back ∧ c ∉ back := by
  obtain ⟨as, bs, hcs, hc⟩ := List.eq_append_cons_of_mem (List.mem_reverse.mpr h)
  exact ⟨bs.reverse, as.reverse, by simpa using congrArg List.reverse hcs, by simpa using hc⟩

/-- An object with anything around it but braces before it and the whole being a text of its own: it
is found when no closing brace comes later. -/
theorem extractChars_around {front inner back : List Char} {r : Record Json}
    (hobject : ∀ rest, Json.value .strict Json.maxNesting ('\x7b' :: inner ++ '\x7d' :: rest) =
      some (.object r, rest))
    (hfront : '\x7b' ∉ front)
    (hwhole : Json.ofChars? (front ++ '\x7b' :: inner ++ '\x7d' :: back) = none) :
    extractChars (front ++ '\x7b' :: inner ++ '\x7d' :: back) =
      if '\x7d' ∈ back then .error (.invalidJson Json.brokenText) else .ok (.object r) := by
  by_cases hback : '\x7d' ∈ back
  · obtain ⟨more, tail, rfl, htail⟩ := exists_last hback
    have hbraced : braced (front ++ '\x7b' :: inner ++ '\x7d' :: (more ++ '\x7d' :: tail)) =
        '\x7b' :: inner ++ '\x7d' :: more ++ ['\x7d'] := by
      have h := braced_between hfront htail (inner ++ '\x7d' :: more)
      simpa only [List.append_assoc, List.cons_append] using h
    have hread : Json.ofChars? ('\x7b' :: inner ++ '\x7d' :: more ++ ['\x7d']) = none := by
      have h := Json.ofChars?_of_value (hobject (more ++ ['\x7d']))
      rw [if_neg (by simp [Json.isSpace])] at h
      simpa only [List.append_assoc, List.cons_append] using h
    rw [if_pos hback, extractChars_of_braced hwhole hbraced, hread]
  · have hread : Json.ofChars? ('\x7b' :: inner ++ ['\x7d']) = some (.object r) :=
      (Json.ofChars?_of_value (hobject [])).trans (if_pos rfl)
    rw [if_neg hback, extractChars_of_braced hwhole (braced_between hfront hback inner), hread]

/-- An object in a reply that is not JSON as a whole, with no opening brace before it, is read when
no closing brace comes after it. When one does, nothing is. -/
theorem extractJson_around_object {before text after : String} {r : Record Json}
    (hobject : Json.ofText? text = some (.object r)) (hbefore : '\x7b' ∉ before.toList)
    (hwhole : Json.ofText? (trimmed (before ++ text ++ after)) = none) :
    extractJson (before ++ text ++ after) =
      if '\x7d' ∈ after.toList then .error (.invalidJson Json.brokenText) else .ok (.object r) := by
  obtain ⟨gap, inner, space, htext, hgap, hspace, hread⟩ := Json.ofChars?_eq_object hobject
  have hgap' : '\x7b' ∉ gap := fun h => absurd (hgap _ h) (by decide)
  have hspace' : '\x7d' ∉ space := fun h => absurd (hspace _ h) (by decide)
  have hreply : (before ++ text ++ after).toList =
      before.toList ++ gap ++ '\x7b' :: inner ++ '\x7d' :: (space ++ after.toList) := by
    simp [htext]
  obtain ⟨front, back, htrim, hmem⟩ := trimBlanks_between (by decide : isBlank '\x7b' = false)
    (by decide : isBlank '\x7d' = false) (before.toList ++ gap) inner (space ++ after.toList)
  have hfront : '\x7b' ∉ front := by
    rw [(hmem '\x7b' (by decide)).1, List.mem_append]
    exact not_or.mpr ⟨hbefore, hgap'⟩
  have hback : '\x7d' ∈ back ↔ '\x7d' ∈ after.toList := by
    rw [(hmem '\x7d' (by decide)).2, List.mem_append, or_iff_right hspace']
  rw [Json.ofText?, trimmed, String.toList_ofList, hreply, htrim] at hwhole
  rw [extractJson, hreply, htrim, extractChars_around hread hfront hwhole]
  simp only [hback]

theorem extractJson_around_fenced :
    extractJson
        ("```json\n" ++ "\x7b\"a\": \"\x7d \x7b\", \"b\": [\x7b\x7d]\x7d" ++ "\n```") =
      .ok (.object [("a", .text "\x7d \x7b"), ("b", .array [.object []])]) := by
  have hobject : Json.ofText? "\x7b\"a\": \"\x7d \x7b\", \"b\": [\x7b\x7d]\x7d" =
      some (.object [("a", .text "\x7d \x7b"), ("b", .array [.object []])]) := by
    decide +kernel
  exact (extractJson_around_object hobject (by decide) (by decide +kernel)).trans
    (if_neg (by decide))

/-- Prose with braces after the object hides it. -/
theorem extractJson_misses_first_object :
    Json.ofText? "\x7b\"ok\": true\x7d" = some (.object [("ok", .bool true)]) ∧
      '\x7b' ∉ "Here you go: ".toList ∧
      Json.ofText? (trimmed ("Here you go: " ++ "\x7b\"ok\": true\x7d" ++
        " Use \x7bbraces\x7d freely.")) = none ∧
      extractJson ("Here you go: " ++ "\x7b\"ok\": true\x7d" ++ " Use \x7bbraces\x7d freely.") =
        .error (.invalidJson Json.brokenText) := by
  decide +kernel

end Reply

end Stagewise
