import Mathlib.Data.List.DropRight
import Stagewise.Json.Writer
import Stagewise.Proofs.Json.Locality

/-! Reading of texts that are put together from pieces. What was read from a piece is read from it
in a longer text, a string comes back as it was written, and objects and arrays are read part by
part. -/

namespace Stagewise

namespace Json

variable {α : Type}

theorem ClosedBy.extend {closing : Char} {reader : Reader α} (h : ClosedBy closing reader)
    {cs left : List Char} {a : α} (hr : reader cs = some (a, left)) (rest : List Char) :
    reader (cs ++ rest) = some (a, left ++ rest) := by
  obtain ⟨inner, rfl, hinner⟩ := h _ _ _ hr
  simpa using hinner (left ++ rest)

theorem Local.extend {reader : Reader α} (h : Local reader) {cs left : List Char} {c : Char} {a : α}
    (hr : reader cs = some (a, c :: left)) (rest : List Char) :
    reader (cs ++ rest) = some (a, c :: left ++ rest) := by
  obtain ⟨taken, rfl, hread⟩ := h _ _ _ hr
  rw [List.append_assoc]
  exact hread (c :: left ++ rest) rfl

/-! Strings. -/

section

variable {rigour : Rigour} {c : Char} {cs rest : List Char}

theorem escape_short {e : Char} (he : shortEscape? e = some c) (hu : e ≠ 'u') :
    escape rigour (e :: rest) = some (c, rest) := by
  simp only [escape, if_neg hu, he, Option.map_some]

theorem hexUnit_control (h : c.toNat < 0x20) (rest : List Char) :
    hexUnit ('0' :: '0' :: Nat.digitChar (c.toNat / 16) :: Nat.digitChar (c.toNat % 16) :: rest) =
      some (c.toNat, rest) := by
  have hdigit : ∀ d < 16, hexValue? (Nat.digitChar d) = some d := by decide
  have hhigh := hdigit (c.toNat / 16) (by omega)
  have hlow := hdigit (c.toNat % 16) (by omega)
  have hzero : hexValue? '0' = some 0 := by decide
  simp only [hexUnit, hzero, hhigh, hlow, Option.bind_eq_bind, Option.bind_some]
  congr 2
  omega

theorem escape_control (h : c.toNat < 0x20) (rest : List Char) :
    escape rigour ('u' :: '0' :: '0' :: Nat.digitChar (c.toNat / 16) ::
      Nat.digitChar (c.toNat % 16) :: rest) = some (c, rest) := by
  have hunit : c.toNat < 0xd800 := by omega
  simp [escape, unicodeEscape, hexUnit_control h, hunit]

/-- Each character of a string is read back from what is written for it. Seven of them have a letter
of their own. -/
theorem stringBody_escapedChar (rigour : Rigour) (c : Char) (cs : List Char) :
    stringBody rigour (escapedChar c ++ cs) =
      (stringBody rigour cs).map fun read => (c :: read.1, read.2) := by
  unfold escapedChar
  iterate 7
    split
    · rename_i hc
      exact stringBody_escape (escape_short (by simp [shortEscape?, hc]) (by decide))
  split
  · rename_i hc
    exact stringBody_escape (escape_control hc cs)
  · rename_i hquote hbackslash _ _ _ _ _ hcontrol
    exact stringBody_plain hquote hbackslash hcontrol

theorem string_escaped (rigour : Rigour) (s : String) (rest : List Char) :
    string rigour (s.toList.flatMap escapedChar ++ '"' :: rest) = some (s, rest) := by
  have hbody : ∀ cs : List Char,
      stringBody rigour (cs.flatMap escapedChar ++ '"' :: rest) = some (cs, rest) := by
    intro cs
    induction cs with
    | nil => exact stringBody_quote rigour rest
    | cons c cs ih =>
      rw [List.flatMap_cons, List.append_assoc, stringBody_escapedChar, ih, Option.map_some]
  rw [string, hbody, Option.map_some, String.ofList_toList]

end

/-! Objects and arrays. -/

/-- Parts that are read whenever there is a round for each of them. -/
def ReadsParts (closing : Char) (part : Reader α) (cs : List Char) (as : List α)
    (rest : List Char) : Prop :=
  ∀ rounds : List Char, as.length ≤ rounds.length →
    partsFrom closing part rounds cs = some (as, rest)

section

variable {closing : Char} {part : Reader α} {a : α} {as : List α} {cs others rest : List Char}

theorem ReadsParts.last (ha : part cs = some (a, others))
    (hnext : skipSpace others = closing :: rest) : ReadsParts closing part cs [a] rest := by
  intro rounds hrounds
  obtain ⟨c, rounds, rfl⟩ := List.exists_cons_of_length_pos hrounds
  exact partsFrom_close ha hnext

theorem ReadsParts.cons (h : ReadsParts closing part others as rest) (hcomma : closing ≠ ',')
    (ha : part cs = some (a, ',' :: others)) : ReadsParts closing part cs (a :: as) rest := by
  intro rounds hrounds
  obtain ⟨c, rounds, rfl⟩ := List.exists_cons_of_length_pos (Nat.zero_lt_of_lt hrounds)
  have hmore := h rounds (Nat.le_of_succ_le_succ hrounds)
  rw [partsFrom_comma hcomma ha (List.dropWhile_cons_of_neg (by decide)), hmore, Option.map_some]

theorem ReadsParts.extend (hpart : Local part) (hcomma : closing ≠ ',') {left : List Char}
    (hr : partsFrom closing part cs cs = some (as, left)) (rest : List Char) :
    ReadsParts closing part (cs ++ rest) as (left ++ rest) := by
  intro rounds hrounds
  obtain ⟨inner, rfl, -, hread⟩ := partsFrom_closed hpart hcomma hr
  simpa using hread rounds (left ++ rest) hrounds

theorem partsFrom_skipSpace (hspace : part (skipSpace cs) = part cs) (rounds : List Char) :
    partsFrom closing part rounds (skipSpace cs) = partsFrom closing part rounds cs := by
  cases rounds with
  | nil => rfl
  | cons c rounds => simp only [partsFrom, hspace]

theorem ReadsParts.parts {c : Char} (h : ReadsParts closing part cs as rest) (hpart : Local part)
    (hcomma : closing ≠ ',') (hspace : part (skipSpace cs) = part cs)
    (hfirst : (skipSpace cs).head? = some c) (hc : c ≠ closing) :
    parts closing part cs = some (as, rest) := by
  obtain ⟨others, hfirst⟩ := List.head?_eq_some_iff.mp hfirst
  have hr : partsFrom closing part (as.map fun _ => ' ') (c :: others) = some (as, rest) := by
    rw [← hfirst, partsFrom_skipSpace hspace]
    exact h _ (by simp)
  obtain ⟨inner, hcs, hlength, hread⟩ := partsFrom_closed hpart hcomma hr
  have hrounds : as.length ≤ (inner ++ closing :: rest).length := by
    rw [List.length_append, List.length_cons]
    omega
  simp only [Json.parts, hfirst, if_neg hc]
  rw [hcs]
  exact hread _ rest hrounds

/-- After a part there must be a comma or the closing character. -/
theorem partsFrom_eq_none {c : Char} (ha : part cs = some (a, c :: others))
    (hspace : isSpace c = false) (hclosing : c ≠ closing) (hcomma : c ≠ ',')
    (rounds : List Char) : partsFrom closing part rounds cs = none := by
  have hnext : skipSpace (c :: others) = c :: others :=
    List.dropWhile_cons_of_neg (by simp [hspace])
  cases rounds with
  | nil => rfl
  | cons _ rounds => simp only [partsFrom, ha, hnext, if_neg hclosing, if_neg hcomma]

end

section

variable {rigour : Rigour} {depth : Nat} {cs others rest : List Char}

theorem head?_skipSpace_append {c : Char} (h : (skipSpace cs).head? = some c) (rest : List Char) :
    (skipSpace (cs ++ rest)).head? = some c := by
  obtain ⟨others, hcs⟩ := List.head?_eq_some_iff.mp h
  obtain ⟨gap, rfl, hgap⟩ := skipSpace_eq_cons hcs
  rw [List.append_assoc, List.cons_append, hgap, List.head?_cons]

theorem skipSpace_skipSpace (cs : List Char) : skipSpace (skipSpace cs) = skipSpace cs :=
  List.dropWhile_idempotent isSpace cs

theorem value_skipSpace (rigour : Rigour) (depth : Nat) (cs : List Char) :
    value rigour depth (skipSpace cs) = value rigour depth cs := by
  obtain ⟨nested, -, hvalue⟩ := value_eq_valueFrom rigour depth
  rw [hvalue, hvalue, skipSpace_skipSpace]

theorem field_skipSpace (rigour : Rigour) (item : Reader Json) (cs : List Char) :
    field rigour item (skipSpace cs) = field rigour item cs := by
  have hname : fieldName rigour (skipSpace cs) = fieldName rigour cs := by
    unfold fieldName
    rw [skipSpace_skipSpace]
  simp only [field, hname]

theorem field_eq_some {item : Reader Json} {name : String} {json : Json}
    (hname : fieldName rigour cs = some (name, others)) (hitem : item others = some (json, rest)) :
    field rigour item cs = some ((name, json), rest) := by
  simp [field, hname, hitem]

theorem value_string {s : String} (hopen : skipSpace cs = '"' :: others)
    (h : string rigour others = some (s, rest)) :
    value rigour depth cs = some (.text s, rest) := by
  obtain ⟨nested, -, hvalue⟩ := value_eq_valueFrom rigour depth
  rw [hvalue, hopen]
  exact congrArg (Option.map fun read => (Json.text read.1, read.2)) h

section

variable {c : Char}

theorem value_array {items : List Json} (hopen : skipSpace cs = '[' :: others)
    (h : ReadsParts ']' (value rigour depth) others items rest)
    (hfirst : (skipSpace others).head? = some c) (hc : c ≠ ']') :
    value rigour (depth + 1) cs = some (.array items, rest) := by
  have hvalue : value rigour (depth + 1) cs = valueFrom rigour (some (value rigour depth))
      (skipSpace cs) :=
    valueOver_eq cs
  have hitems := h.parts (local_value rigour depth) (by decide)
    (value_skipSpace rigour depth others) hfirst hc
  rw [← items_eq] at hitems
  rw [hvalue, hopen]
  exact congrArg (Option.map fun read => (Json.array read.1, read.2)) hitems

theorem value_object {entries : List (String × Json)} (hopen : skipSpace cs = '\x7b' :: others)
    (h : ReadsParts '\x7d' (field rigour (value rigour depth)) others entries rest)
    (hfirst : (skipSpace others).head? = some c) (hc : c ≠ '\x7d') :
    value rigour (depth + 1) cs = some (ofFields entries, rest) := by
  have hvalue : value rigour (depth + 1) cs = valueFrom rigour (some (value rigour depth))
      (skipSpace cs) :=
    valueOver_eq cs
  have hfields := h.parts (local_field (local_value rigour depth) rigour) (by decide)
    (field_skipSpace rigour (value rigour depth) others) hfirst hc
  rw [← fields_eq] at hfields
  rw [hvalue, hopen]
  exact congrArg (Option.map fun read => (ofFields read.1, read.2)) hfields

theorem value_object_eq_none {entry : String × Json} {d : Char}
    (hopen : skipSpace cs = '\x7b' :: others)
    (hfirst : (skipSpace others).head? = some c) (hc : c ≠ '\x7d')
    (hentry : field rigour (value rigour depth) others = some (entry, d :: rest))
    (hspace : isSpace d = false) (hclosing : d ≠ '\x7d') (hcomma : d ≠ ',') :
    value rigour (depth + 1) cs = none := by
  have hvalue : value rigour (depth + 1) cs = valueFrom rigour (some (value rigour depth))
      (skipSpace cs) :=
    valueOver_eq cs
  obtain ⟨more, hfirst⟩ := List.head?_eq_some_iff.mp hfirst
  have hparts : parts '\x7d' (field rigour (value rigour depth)) others = none := by
    rw [← field_skipSpace, hfirst] at hentry
    simp only [parts, hfirst, if_neg hc]
    exact partsFrom_eq_none hentry hspace hclosing hcomma _
  rw [← fields_eq] at hparts
  rw [hvalue, hopen]
  exact congrArg (Option.map fun read => (ofFields read.1, read.2)) hparts

end

end

end Json

end Stagewise
