import Mathlib.Data.List.TakeWhile
import Stagewise.Json.Reader

/-! How far readers look. What a reader takes depends on nothing behind it but the next character,
and what ends in a delimiter of its own not even on that. So the object in a text is found in every
text that goes on otherwise after it. -/

namespace Stagewise

namespace Json

variable {α β : Type}

/-- What is read depends only on the characters taken and on the one after them. -/
def Local (reader : Reader α) : Prop :=
  ∀ cs a rest, reader cs = some (a, rest) →
    ∃ taken, cs = taken ++ rest ∧
      ∀ rest', rest'.head? = rest.head? → reader (taken ++ rest') = some (a, rest')

/-- What is read ends with the given character, and does not depend on what comes after it. -/
def ClosedBy (closing : Char) (reader : Reader α) : Prop :=
  ∀ cs a rest, reader cs = some (a, rest) →
    ∃ inner, cs = inner ++ closing :: rest ∧
      ∀ rest', reader (inner ++ closing :: rest') = some (a, rest')

theorem ClosedBy.local {closing : Char} {reader : Reader α} (h : ClosedBy closing reader) :
    Local reader := by
  intro cs a rest hr
  obtain ⟨inner, rfl, hrest⟩ := h cs a rest hr
  exact ⟨inner ++ [closing], by simp, fun rest' _ => by simpa using hrest rest'⟩

theorem head?_append_of_head? {taken rest rest' : List Char} (h : rest'.head? = rest.head?) :
    (taken ++ rest').head? = (taken ++ rest).head? := by
  cases taken with
  | nil => exact h
  | cons c taken => rfl

theorem Local.pure (a : α) : Local fun cs => some (a, cs) := by
  intro cs a' rest hr
  obtain ⟨rfl, rfl⟩ := Prod.mk.inj (Option.some.inj hr)
  exact ⟨[], rfl, fun rest' _ => rfl⟩

theorem Local.fail : Local fun _ => (none : Option (α × List Char)) :=
  nofun

/-- Two readers one after the other. -/
theorem Local.bind {first : Reader α} {second : α → Reader β} (hfirst : Local first)
    (hsecond : ∀ a, Local (second a)) :
    Local fun cs => (first cs).bind fun read => second read.1 read.2 := by
  intro cs b rest hr
  obtain ⟨⟨a, mid⟩, ha, hb⟩ := Option.bind_eq_some_iff.mp hr
  obtain ⟨front, rfl, hfront⟩ := hfirst cs a mid ha
  obtain ⟨back, rfl, hback⟩ := hsecond a mid b rest hb
  refine ⟨front ++ back, by simp, fun rest' hhead => ?_⟩
  have ha' := hfront (back ++ rest') (head?_append_of_head? hhead)
  simp only [List.append_assoc, ha', Option.bind_some]
  exact hback rest' hhead

theorem Local.map {reader : Reader α} (h : Local reader) (f : α → β) :
    Local fun cs => (reader cs).map fun read => (f read.1, read.2) := by
  have hbind := h.bind fun a => Local.pure (f a)
  simpa only [Option.map_eq_bind, Function.comp_def] using hbind

theorem ClosedBy.map {closing : Char} {reader : Reader α} (h : ClosedBy closing reader)
    (f : α → β) : ClosedBy closing fun cs => (reader cs).map fun read => (f read.1, read.2) := by
  intro cs b rest hr
  obtain ⟨⟨a, left⟩, ha, hb⟩ := Option.map_eq_some_iff.mp hr
  obtain ⟨rfl, rfl⟩ := Prod.mk.inj hb
  obtain ⟨inner, rfl, hinner⟩ := h cs a left ha
  exact ⟨inner, rfl, fun rest' => by simp [hinner rest']⟩

/-! Blank space and words. -/

/-- Blank space is taken up to the first character that is none. -/
theorem local_skipSpace : Local fun cs => some ((), skipSpace cs) := by
  intro cs _ rest hr
  obtain ⟨-, rfl⟩ := Prod.mk.inj (Option.some.inj hr)
  refine ⟨cs.takeWhile isSpace, List.takeWhile_append_dropWhile.symm, fun rest' hhead => ?_⟩
  have hgap : skipSpace (cs.takeWhile isSpace ++ rest') = skipSpace rest' :=
    List.dropWhile_append_of_pos fun _ hc => List.mem_takeWhile_imp hc
  have hrest' : skipSpace rest' = rest' := by
    cases rest' with
    | nil => rfl
    | cons c rest' =>
      have hc := List.head?_dropWhile_not isSpace cs
      rw [show (cs.dropWhile isSpace).head? = some c from hhead.symm] at hc
      exact List.dropWhile_cons_of_neg (by simpa using hc)
  simp only [hgap, hrest']

theorem skipSpace_eq_cons {cs rest : List Char} {c : Char} (h : skipSpace cs = c :: rest) :
    ∃ gap, cs = gap ++ c :: rest ∧ ∀ rest', skipSpace (gap ++ c :: rest') = c :: rest' := by
  obtain ⟨gap, hcs, hgap⟩ := local_skipSpace cs () (c :: rest) (by simp only [h])
  refine ⟨gap, hcs, fun rest' => ?_⟩
  exact (Prod.mk.inj (Option.some.inj (hgap (c :: rest') rfl))).2

theorem local_word (letters : List Char) (value : Json) : Local (word letters value) := by
  intro cs json rest hr
  unfold word at hr
  split at hr
  · rename_i hletters
    obtain ⟨rfl, rfl⟩ := Prod.mk.inj (Option.some.inj hr)
    obtain ⟨rest, rfl⟩ := List.isPrefixOf_iff_prefix.mp hletters
    exact ⟨letters, by simp, fun rest' _ => by simp [word]⟩
  · cases hr

/-! Strings. -/

theorem local_hexUnit : Local hexUnit := by
  intro cs n rest hr
  match cs with
  | [] | [_] | [_, _] | [_, _, _] => simp [hexUnit] at hr
  | a :: b :: c :: d :: r =>
    have hrest : r = rest := by
      simp only [hexUnit, Option.bind_eq_bind, Option.bind_eq_some_iff] at hr
      obtain ⟨_, _, _, _, _, _, _, _, h⟩ := hr
      exact (Prod.mk.inj (Option.some.inj h)).2
    subst hrest
    refine ⟨[a, b, c, d], rfl, fun rest' _ => ?_⟩
    simp only [hexUnit, Option.bind_eq_bind, Option.bind_eq_some_iff] at hr
    obtain ⟨w, hw, x, hx, y, hy, z, hz, h⟩ := hr
    obtain ⟨rfl, -⟩ := Prod.mk.inj (Option.some.inj h)
    simp [hexUnit, hw, hx, hy, hz]

theorem local_lowSurrogate (high : Nat) : Local (lowSurrogate high) := by
  intro cs c rest hr
  unfold lowSurrogate at hr
  split at hr
  · split at hr
    · rename_i low rest' hlow
      split at hr
      · rename_i hrange
        obtain ⟨rfl, rfl⟩ := Prod.mk.inj (Option.some.inj hr)
        obtain ⟨taken, rfl, hunit⟩ := local_hexUnit _ _ _ hlow
        refine ⟨'\\' :: 'u' :: taken, rfl, fun rest' hhead => ?_⟩
        simp [lowSurrogate, hunit rest' hhead, hrange]
      · cases hr
    · cases hr
  · cases hr

theorem local_unicodeEscape (rigour : Rigour) : Local (unicodeEscape rigour) := by
  intro cs c rest hr
  unfold unicodeEscape at hr
  split at hr
  · rename_i unit left hunit
    obtain ⟨taken, rfl, hread⟩ := local_hexUnit _ _ _ hunit
    split at hr
    · obtain ⟨rfl, rfl⟩ := Prod.mk.inj (Option.some.inj hr)
      exact ⟨taken, rfl, fun rest' hhead => by simp [unicodeEscape, hread rest' hhead, *]⟩
    split at hr
    · obtain ⟨rfl, rfl⟩ := Prod.mk.inj (Option.some.inj hr)
      exact ⟨taken, rfl, fun rest' hhead => by simp [unicodeEscape, hread rest' hhead, *]⟩
    split at hr
    · obtain ⟨low, rfl, hlow⟩ := local_lowSurrogate unit _ _ _ hr
      refine ⟨taken ++ low, by simp, fun rest' hhead => ?_⟩
      have hunit' := hread (low ++ rest') (head?_append_of_head? hhead)
      simp [unicodeEscape, hlow rest' hhead, *]
    · cases hr
  · cases hr

theorem local_escape (rigour : Rigour) : Local (escape rigour) := by
  intro cs e rest hr
  cases cs with
  | nil => cases hr
  | cons c cs =>
    by_cases hc : c = 'u'
    · simp only [escape, if_pos hc] at hr
      obtain ⟨taken, rfl, hread⟩ := local_unicodeEscape rigour _ _ _ hr
      exact ⟨c :: taken, rfl, fun rest' hhead => by simp [escape, hc, hread rest' hhead]⟩
    · simp only [escape, if_neg hc] at hr
      obtain ⟨e', he, h⟩ := Option.map_eq_some_iff.mp hr
      obtain ⟨rfl, rfl⟩ := Prod.mk.inj h
      exact ⟨[c], rfl, fun rest' _ => by simp [escape, hc, he]⟩

section

variable {rigour : Rigour} {c e : Char} {cs rest : List Char}

theorem stringBody_quote (rigour : Rigour) (cs : List Char) :
    stringBody rigour ('"' :: cs) = some ([], cs) := by
  simp [stringBody]

theorem stringBody_escape (h : escape rigour cs = some (e, rest)) :
    stringBody rigour ('\\' :: cs) =
      (stringBody rigour rest).map fun read => (e :: read.1, read.2) := by
  rw [stringBody]
  simp only [Char.reduceEq, if_false, if_true]
  split
  · rename_i h'
    obtain ⟨rfl, rfl⟩ := Prod.mk.inj (Option.some.inj (h.symm.trans h'))
    rfl
  · rename_i h'
    cases h.symm.trans h'

theorem stringBody_plain (hquote : c ≠ '"') (hbackslash : c ≠ '\\') (hcontrol : ¬c.toNat < 0x20) :
    stringBody rigour (c :: cs) =
      (stringBody rigour cs).map fun read => (c :: read.1, read.2) := by
  rw [stringBody]
  simp [hquote, hbackslash, hcontrol]

end

theorem closedBy_stringBody (rigour : Rigour) : ClosedBy '"' (stringBody rigour) := by
  intro cs text rest hr
  fun_induction stringBody rigour cs generalizing text rest with
  | case1 => cases hr
  | case2 cs =>
    obtain ⟨rfl, rfl⟩ := Prod.mk.inj (Option.some.inj hr)
    exact ⟨[], rfl, stringBody_quote rigour⟩
  | case3 cs e left hescape _ ih =>
    obtain ⟨⟨more, rest⟩, hmore, he⟩ := Option.map_eq_some_iff.mp hr
    obtain ⟨rfl, rfl⟩ := Prod.mk.inj he
    obtain ⟨inner, rfl, hinner⟩ := ih more rest hmore
    obtain ⟨taken, rfl, htaken⟩ := local_escape rigour _ _ _ hescape
    refine ⟨'\\' :: taken ++ inner, by simp, fun rest' => ?_⟩
    have hescape' := htaken (inner ++ '"' :: rest') (head?_append_of_head? rfl)
    simp [stringBody_escape hescape', hinner rest']
  | case4 => cases hr
  | case5 => cases hr
  | case6 c cs hquote hbackslash hcontrol ih =>
    obtain ⟨⟨more, rest⟩, hmore, he⟩ := Option.map_eq_some_iff.mp hr
    obtain ⟨rfl, rfl⟩ := Prod.mk.inj he
    obtain ⟨inner, rfl, hinner⟩ := ih more rest hmore
    refine ⟨c :: inner, rfl, fun rest' => ?_⟩
    simp [stringBody_plain hquote hbackslash hcontrol, hinner rest']

theorem closedBy_string (rigour : Rigour) : ClosedBy '"' (string rigour) :=
  (closedBy_stringBody rigour).map String.ofList

/-! Numbers. -/

theorem digits_append {cs ds rest : List Char} (h : digits cs = (ds, rest)) :
    cs = ds ++ rest ∧ ∀ rest', rest'.head? = rest.head? → digits (ds ++ rest') = (ds, rest') := by
  obtain ⟨rfl, rfl⟩ := Prod.mk.inj h
  refine ⟨List.takeWhile_append_dropWhile.symm, fun rest' hhead => ?_⟩
  have hstop : ∀ c ∈ rest'.head?, c.isDigit = false := by
    rw [hhead]
    intro c hc
    have := List.head?_dropWhile_not Char.isDigit cs
    rw [Option.mem_def.mp hc] at this
    exact this
  have hds : ∀ c ∈ cs.takeWhile Char.isDigit, c.isDigit = true :=
    fun _ hc => List.mem_takeWhile_imp hc
  rw [digits, List.takeWhile_append_of_pos hds, List.dropWhile_append_of_pos hds]
  cases rest' with
  | nil => simp
  | cons c rest' => simp [hstop c rfl]

theorem local_wholePart : Local wholePart := by
  intro cs ds rest hr
  unfold wholePart at hr
  split at hr
  · cases hr
  · cases hr
  · rename_i ds' left hnil hzero hdigits
    obtain ⟨rfl, rfl⟩ := Prod.mk.inj (Option.some.inj hr)
    obtain ⟨rfl, hrest⟩ := digits_append hdigits
    refine ⟨ds', rfl, fun rest' hhead => ?_⟩
    unfold wholePart
    rw [hrest rest' hhead]
    split <;> simp_all

theorem fractionPart_point (cs : List Char) :
    fractionPart ('.' :: cs) =
      match digits cs with
      | ([], _) => none
      | (ds, rest) => some (ds, rest) :=
  rfl

theorem fractionPart_of_ne {cs : List Char} (h : cs.head? ≠ some '.') :
    fractionPart cs = some ([], cs) := by
  unfold fractionPart
  split
  · exact absurd rfl h
  · rfl

theorem local_fractionPart : Local fractionPart := by
  intro cs ds rest hr
  by_cases hpoint : cs.head? = some '.'
  · obtain ⟨cs, rfl⟩ := List.head?_eq_some_iff.mp hpoint
    rw [fractionPart_point] at hr
    split at hr
    · cases hr
    · rename_i ds' left hnil hdigits
      obtain ⟨rfl, rfl⟩ := Prod.mk.inj (Option.some.inj hr)
      obtain ⟨rfl, hrest⟩ := digits_append hdigits
      refine ⟨'.' :: ds', rfl, fun rest' hhead => ?_⟩
      simp only [fractionPart, List.cons_append, hrest rest' hhead]
  · rw [fractionPart_of_ne hpoint] at hr
    obtain ⟨rfl, rfl⟩ := Prod.mk.inj (Option.some.inj hr)
    exact ⟨[], rfl, fun rest' hhead => fractionPart_of_ne (hhead ▸ hpoint)⟩

theorem local_exponentDigits (negative : Bool) : Local (exponentDigits negative) := by
  intro cs n rest hr
  unfold exponentDigits at hr
  split at hr
  · cases hr
  · rename_i ds left hnil hdigits
    obtain ⟨rfl, rfl⟩ := Prod.mk.inj (Option.some.inj hr)
    obtain ⟨rfl, hrest⟩ := digits_append hdigits
    refine ⟨ds, rfl, fun rest' hhead => ?_⟩
    simp only [exponentDigits, hrest rest' hhead]

/-- The digits of an exponent, with a sign or without one. -/
def signedExponent : Reader Int
  | '-' :: cs => exponentDigits true cs
  | '+' :: cs => exponentDigits false cs
  | cs => exponentDigits false cs

theorem exponentPart_cons (c : Char) (cs : List Char) :
    exponentPart (c :: cs) =
      if c = 'e' ∨ c = 'E' then (signedExponent cs).map fun read => (some read.1, read.2)
      else some (none, c :: cs) :=
  rfl

theorem signedExponent_unsigned {cs : List Char} (hminus : cs.head? ≠ some '-')
    (hplus : cs.head? ≠ some '+') : signedExponent cs = exponentDigits false cs := by
  unfold signedExponent
  split
  · exact absurd rfl hminus
  · exact absurd rfl hplus
  · rfl

theorem local_signedExponent : Local signedExponent := by
  intro cs n rest hr
  by_cases hminus : cs.head? = some '-'
  · obtain ⟨cs, rfl⟩ := List.head?_eq_some_iff.mp hminus
    obtain ⟨taken, rfl, hrest⟩ := local_exponentDigits true _ _ _ hr
    exact ⟨'-' :: taken, rfl, hrest⟩
  by_cases hplus : cs.head? = some '+'
  · obtain ⟨cs, rfl⟩ := List.head?_eq_some_iff.mp hplus
    obtain ⟨taken, rfl, hrest⟩ := local_exponentDigits false _ _ _ hr
    exact ⟨'+' :: taken, rfl, hrest⟩
  · rw [signedExponent_unsigned hminus hplus] at hr
    obtain ⟨taken, rfl, hrest⟩ := local_exponentDigits false _ _ _ hr
    refine ⟨taken, rfl, fun rest' hhead => ?_⟩
    have hsame : (taken ++ rest').head? = (taken ++ rest).head? := head?_append_of_head? hhead
    rw [signedExponent_unsigned (hsame ▸ hminus) (hsame ▸ hplus)]
    exact hrest rest' hhead

theorem local_exponentPart : Local exponentPart := by
  intro cs e rest hr
  cases cs with
  | nil =>
    obtain ⟨rfl, rfl⟩ := Prod.mk.inj (Option.some.inj hr)
    refine ⟨[], rfl, fun rest' hhead => ?_⟩
    rw [List.head?_eq_none_iff.mp hhead]
    rfl
  | cons c cs =>
    rw [exponentPart_cons] at hr
    split at hr
    · rename_i hmark
      obtain ⟨taken, rfl, hrest⟩ := local_signedExponent.map some _ _ _ hr
      refine ⟨c :: taken, rfl, fun rest' hhead => ?_⟩
      rw [List.cons_append, exponentPart_cons, if_pos hmark]
      exact hrest rest' hhead
    · rename_i hmark
      obtain ⟨rfl, rfl⟩ := Prod.mk.inj (Option.some.inj hr)
      refine ⟨[], rfl, fun rest' hhead => ?_⟩
      obtain ⟨cs', rfl⟩ := List.head?_eq_some_iff.mp hhead
      rw [List.nil_append, exponentPart_cons, if_neg hmark]

theorem local_numeral (negative : Bool) : Local (numeral negative) :=
  local_wholePart.bind fun whole => local_fractionPart.bind fun fraction =>
    local_exponentPart.bind fun exponent =>
      .pure (Numeral.mk negative whole fraction (exponent.getD 0)
        (!fraction.isEmpty || exponent.isSome))

/-- A number with its sign. -/
def signedNumeral : Reader Numeral
  | '-' :: cs => numeral true cs
  | cs => numeral false cs

theorem signedNumeral_unsigned {cs : List Char} (h : cs.head? ≠ some '-') :
    signedNumeral cs = numeral false cs := by
  unfold signedNumeral
  split
  · exact absurd rfl h
  · rfl

theorem local_signedNumeral : Local signedNumeral := by
  intro cs n rest hr
  by_cases hminus : cs.head? = some '-'
  · obtain ⟨cs, rfl⟩ := List.head?_eq_some_iff.mp hminus
    obtain ⟨taken, rfl, hrest⟩ := local_numeral true _ _ _ hr
    exact ⟨'-' :: taken, rfl, hrest⟩
  · rw [signedNumeral_unsigned hminus] at hr
    obtain ⟨taken, rfl, hrest⟩ := local_numeral false _ _ _ hr
    refine ⟨taken, rfl, fun rest' hhead => ?_⟩
    rw [signedNumeral_unsigned (head?_append_of_head? hhead ▸ hminus)]
    exact hrest rest' hhead

/-- The value of a number that was read. -/
def numeralValue (rigour : Rigour) (n : Numeral) : Reader Json := fun cs =>
  match n.value?, rigour with
  | some value, _ => some (value, cs)
  | none, .lax => some (.null, cs)
  | none, .strict => none

theorem local_numeralValue (rigour : Rigour) (n : Numeral) : Local (numeralValue rigour n) := by
  unfold numeralValue
  split
  · exact .pure _
  · exact .pure _
  · exact .fail

theorem number_eq (rigour : Rigour) (cs : List Char) :
    number rigour cs = (signedNumeral cs).bind fun read => numeralValue rigour read.1 read.2 := by
  by_cases hminus : cs.head? = some '-'
  · obtain ⟨cs, rfl⟩ := List.head?_eq_some_iff.mp hminus
    rfl
  · rw [signedNumeral_unsigned hminus]
    unfold number
    split
    · exact absurd rfl hminus
    · rfl

theorem local_number (rigour : Rigour) : Local (number rigour) := by
  rw [funext (number_eq rigour)]
  exact local_signedNumeral.bind (local_numeralValue rigour)

/-! Arrays and objects. -/

/-- Parts up to a closing character, the first of them still to come: items or fields. -/
def partsFrom (closing : Char) (part : Reader α) : List Char → Reader (List α)
  | [], _ => none
  | _ :: rounds, cs =>
    match part cs with
    | none => none
    | some (a, rest) =>
      match skipSpace rest with
      | [] => none
      | c :: rest =>
        if c = closing then some ([a], rest)
        else if c = ',' then
          (partsFrom closing part rounds rest).map fun read => (a :: read.1, read.2)
        else none

def parts (closing : Char) (part : Reader α) : Reader (List α) := fun cs =>
  match skipSpace cs with
  | [] => none
  | c :: rest =>
    if c = closing then some ([], rest) else partsFrom closing part (c :: rest) (c :: rest)

theorem itemsFrom_eq (item : Reader Json) (rounds cs : List Char) :
    itemsFrom item rounds cs = partsFrom ']' item rounds cs := by
  induction rounds generalizing cs with
  | nil => rfl
  | cons _ rounds ih =>
    simp only [itemsFrom, partsFrom, ih]
    cases item cs with
    | none => rfl
    | some read =>
      dsimp only
      cases skipSpace read.2 with
      | nil => rfl
      | cons c others => split <;> simp_all

theorem fieldsFrom_eq (entry : Reader (String × Json)) (rounds cs : List Char) :
    fieldsFrom entry rounds cs = partsFrom '\x7d' entry rounds cs := by
  induction rounds generalizing cs with
  | nil => rfl
  | cons _ rounds ih =>
    simp only [fieldsFrom, partsFrom, ih]
    cases entry cs with
    | none => rfl
    | some read =>
      dsimp only
      cases skipSpace read.2 with
      | nil => rfl
      | cons c others => split <;> simp_all

theorem items_eq (item : Reader Json) : items item = parts ']' item := by
  funext cs
  unfold items parts
  cases skipSpace cs with
  | nil => rfl
  | cons c others =>
    split
    · simp_all
    · simp_all [itemsFrom_eq]

theorem fields_eq (entry : Reader (String × Json)) : fields entry = parts '\x7d' entry := by
  funext cs
  unfold fields parts
  cases skipSpace cs with
  | nil => rfl
  | cons c others => split <;> simp_all [fieldsFrom_eq]

section

variable {closing : Char} {part : Reader α} {a : α} {as : List α}
  {cs others rest rounds : List Char}

theorem partsFrom_close {c : Char} (ha : part cs = some (a, others))
    (hnext : skipSpace others = closing :: rest) :
    partsFrom closing part (c :: rounds) cs = some ([a], rest) := by
  simp only [partsFrom, ha, hnext, if_true]

theorem partsFrom_comma {c : Char} (hcomma : closing ≠ ',') (ha : part cs = some (a, others))
    (hnext : skipSpace others = ',' :: rest) :
    partsFrom closing part (c :: rounds) cs =
      (partsFrom closing part rounds rest).map fun read => (a :: read.1, read.2) := by
  simp only [partsFrom, ha, hnext, if_neg hcomma.symm, if_true]

/-- The first part was the last one, or there are more after a comma. -/
theorem partsFrom_cases {c : Char}
    (hr : partsFrom closing part (c :: rounds) cs = some (as, rest)) :
    ∃ a left, part cs = some (a, left) ∧
      (skipSpace left = closing :: rest ∧ as = [a] ∨
        ∃ others more, skipSpace left = ',' :: others ∧
          partsFrom closing part rounds others = some (more, rest) ∧ as = a :: more) := by
  simp only [partsFrom] at hr
  split at hr
  · cases hr
  rename_i a left ha
  split at hr
  · cases hr
  rename_i c others hnext
  split at hr
  · rename_i hc
    obtain ⟨rfl, rfl⟩ := Prod.mk.inj (Option.some.inj hr)
    exact ⟨a, left, ha, .inl ⟨hc ▸ hnext, rfl⟩⟩
  split at hr
  · rename_i hc
    obtain ⟨⟨more, rest⟩, hmore, he⟩ := Option.map_eq_some_iff.mp hr
    obtain ⟨rfl, rfl⟩ := Prod.mk.inj he
    exact ⟨a, left, ha, .inr ⟨others, more, hc ▸ hnext, hmore, rfl⟩⟩
  · cases hr

/-- Each part but the last takes a comma, and with a round for each part it does not matter how many
there are. -/
theorem partsFrom_closed (h : Local part) (hcomma : closing ≠ ',')
    (hr : partsFrom closing part rounds cs = some (as, rest)) :
    ∃ inner, cs = inner ++ closing :: rest ∧ as.length ≤ inner.length + 1 ∧
      ∀ rounds' rest', as.length ≤ rounds'.length →
        partsFrom closing part rounds' (inner ++ closing :: rest') = some (as, rest') := by
  induction rounds generalizing cs as rest with
  | nil => cases hr
  | cons _ rounds ih =>
    obtain ⟨a, left, ha, hend⟩ := partsFrom_cases hr
    obtain ⟨taken, rfl, htaken⟩ := h _ _ _ ha
    rcases hend with ⟨hclose, rfl⟩ | ⟨others, more, hnext, hmore, rfl⟩
    · obtain ⟨gap, rfl, hgap⟩ := skipSpace_eq_cons hclose
      refine ⟨taken ++ gap, by simp, by simp, fun rounds' rest' hrounds => ?_⟩
      obtain ⟨c, rounds', rfl⟩ := List.exists_cons_of_length_pos hrounds
      have ha' := htaken (gap ++ closing :: rest') (head?_append_of_head? rfl)
      rw [List.append_assoc]
      exact partsFrom_close ha' (hgap rest')
    · obtain ⟨inner, rfl, hlength, hinner⟩ := ih hmore
      obtain ⟨gap, rfl, hgap⟩ := skipSpace_eq_cons hnext
      refine ⟨taken ++ gap ++ ',' :: inner, by simp, ?_, fun rounds' rest' hrounds => ?_⟩
      · simp only [List.length_append, List.length_cons]
        omega
      · obtain ⟨c, rounds', rfl⟩ := List.exists_cons_of_length_pos (Nat.zero_lt_of_lt hrounds)
        have ha' := htaken (gap ++ ',' :: (inner ++ closing :: rest')) (head?_append_of_head? rfl)
        have hmore' := hinner rounds' rest' (Nat.le_of_succ_le_succ hrounds)
        simp only [List.append_assoc, List.cons_append]
        rw [partsFrom_comma hcomma ha' (hgap _), hmore', Option.map_some]

theorem closedBy_parts (h : Local part) (hcomma : closing ≠ ',') :
    ClosedBy closing (parts closing part) := by
  intro cs as rest hr
  unfold parts at hr
  split at hr
  · cases hr
  rename_i c others hnext
  obtain ⟨gap, rfl, hgap⟩ := skipSpace_eq_cons hnext
  split at hr
  · rename_i hc
    obtain ⟨rfl, rfl⟩ := Prod.mk.inj (Option.some.inj hr)
    exact ⟨gap, by rw [hc], fun rest' => by simp [parts, ← hc, hgap]⟩
  · rename_i hc
    obtain ⟨inner, hinner, hlength, hparts⟩ := partsFrom_closed h hcomma hr
    cases inner with
    | nil => exact absurd (List.cons.inj hinner).1 hc
    | cons d inner =>
      obtain ⟨rfl, rfl⟩ := List.cons.inj hinner
      refine ⟨gap ++ c :: inner, by simp, fun rest' => ?_⟩
      have hrounds : as.length ≤ (c :: inner ++ closing :: rest').length := by
        simp only [List.length_append, List.length_cons] at hlength ⊢
        omega
      have hparts' := hparts _ rest' hrounds
      simpa [parts, hgap, hc] using hparts'

end

theorem closedBy_fieldName (rigour : Rigour) : ClosedBy ':' (fieldName rigour) := by
  intro cs name rest hr
  unfold fieldName at hr
  split at hr
  · rename_i others hquote
    split at hr
    · rename_i s left hstring
      split at hr
      · rename_i after hcolon
        obtain ⟨rfl, rfl⟩ := Prod.mk.inj (Option.some.inj hr)
        obtain ⟨gap, rfl, hgap⟩ := skipSpace_eq_cons hquote
        obtain ⟨inner, rfl, hinner⟩ := closedBy_string rigour _ _ _ hstring
        obtain ⟨gap', rfl, hgap'⟩ := skipSpace_eq_cons hcolon
        refine ⟨gap ++ '"' :: inner ++ '"' :: gap', by simp, fun rest' => ?_⟩
        simp [fieldName, hgap, hinner, hgap']
      · cases hr
    · cases hr
  · cases hr

theorem local_field {item : Reader Json} (h : Local item) (rigour : Rigour) :
    Local (field rigour item) :=
  (closedBy_fieldName rigour).local.bind fun name => h.bind fun value => Local.pure (name, value)

/-! Values. -/

/-- What a value with this first letter reads after it; a number reads the letter again. -/
def valueFrom (rigour : Rigour) (nested : Option (Reader Json)) : Reader Json
  | [] => none
  | c :: rest =>
    if c = 'n' then word ['u', 'l', 'l'] .null rest
    else if c = 't' then word ['r', 'u', 'e'] (.bool true) rest
    else if c = 'f' then word ['a', 'l', 's', 'e'] (.bool false) rest
    else if c = '"' then (string rigour rest).map fun read => (.text read.1, read.2)
    else if c = '[' then nested.bind fun item =>
      (items item rest).map fun read => (.array read.1, read.2)
    else if c = '\x7b' then nested.bind fun item =>
      (fields (field rigour item) rest).map fun read => (ofFields read.1, read.2)
    else number rigour (c :: rest)

section

variable {rigour : Rigour} {nested : Option (Reader Json)}

theorem valueOver_eq (cs : List Char) :
    valueOver rigour nested cs = valueFrom rigour nested (skipSpace cs) := by
  unfold valueOver valueFrom
  cases skipSpace cs with
  | nil => rfl
  | cons c rest => simp only [Option.map_eq_bind, Function.comp_def, Option.bind_eq_bind]

theorem Local.cons {reader after : Reader α} {c : Char} {cs rest : List Char} {a : α}
    (h : Local after) (hreader : ∀ cs, reader (c :: cs) = after cs)
    (hr : reader (c :: cs) = some (a, rest)) :
    ∃ taken, c :: cs = taken ++ rest ∧
      ∀ rest', rest'.head? = rest.head? → reader (taken ++ rest') = some (a, rest') := by
  rw [hreader] at hr
  obtain ⟨taken, rfl, htaken⟩ := h _ _ _ hr
  exact ⟨c :: taken, rfl, fun rest' hhead => (hreader _).trans (htaken rest' hhead)⟩

theorem valueFrom_number {c : Char} (hn : c ≠ 'n') (ht : c ≠ 't') (hf : c ≠ 'f') (hquote : c ≠ '"')
    (hbracket : c ≠ '[') (hbrace : c ≠ '\x7b') (cs : List Char) :
    valueFrom rigour nested (c :: cs) = number rigour (c :: cs) := by
  simp only [valueFrom, if_neg hn, if_neg ht, if_neg hf, if_neg hquote, if_neg hbracket,
    if_neg hbrace]

theorem local_items {item : Reader Json} (h : Local item) :
    Local fun cs => (items item cs).map fun read => (Json.array read.1, read.2) := by
  rw [items_eq]
  exact (closedBy_parts h (by decide)).local.map _

theorem closedBy_fields {item : Reader Json} (h : Local item) (rigour : Rigour) :
    ClosedBy '\x7d' (fields (field rigour item)) := by
  rw [fields_eq]
  exact closedBy_parts (local_field h rigour) (by decide)

theorem local_valueFrom (h : ∀ item, nested = some item → Local item) :
    Local (valueFrom rigour nested) := by
  intro cs json rest hr
  cases cs with
  | nil => cases hr
  | cons c others =>
    by_cases hn : c = 'n'
    · subst hn
      exact (local_word _ _).cons (fun _ => rfl) hr
    by_cases ht : c = 't'
    · subst ht
      exact (local_word _ _).cons (fun _ => rfl) hr
    by_cases hf : c = 'f'
    · subst hf
      exact (local_word _ _).cons (fun _ => rfl) hr
    by_cases hquote : c = '"'
    · subst hquote
      exact ((closedBy_string rigour).local.map _).cons (fun _ => rfl) hr
    by_cases hbracket : c = '['
    · subst hbracket
      cases nested with
      | none => cases hr
      | some item => exact (local_items (h item rfl)).cons (fun _ => rfl) hr
    by_cases hbrace : c = '\x7b'
    · subst hbrace
      cases nested with
      | none => cases hr
      | some item =>
        exact ((closedBy_fields (h item rfl) rigour).local.map _).cons (fun _ => rfl) hr
    · have hnumber : ∀ cs, valueFrom rigour nested (c :: cs) = number rigour (c :: cs) :=
        valueFrom_number hn ht hf hquote hbracket hbrace
      rw [hnumber] at hr
      obtain ⟨taken, htaken, hread⟩ := local_number rigour _ _ _ hr
      refine ⟨taken, htaken, fun rest' hhead => ?_⟩
      have hfirst : (taken ++ rest').head? = some c := by
        rw [head?_append_of_head? hhead, ← htaken]
        rfl
      obtain ⟨others', hothers⟩ := List.head?_eq_some_iff.mp hfirst
      rw [hothers, hnumber, ← hothers]
      exact hread rest' hhead

theorem local_valueOver (h : ∀ item, nested = some item → Local item) :
    Local (valueOver rigour nested) := by
  rw [funext valueOver_eq]
  exact local_skipSpace.bind fun _ => local_valueFrom h

end

theorem local_value (rigour : Rigour) (depth : Nat) : Local (value rigour depth) := by
  induction depth with
  | zero => exact local_valueOver nofun
  | succ depth ih =>
    refine local_valueOver fun item hitem => ?_
    obtain rfl := Option.some.inj hitem
    exact ih

/-- Whatever the depth, a value is read by its first letter that is no space. -/
theorem value_eq_valueFrom (rigour : Rigour) (depth : Nat) :
    ∃ nested, (∀ item, nested = some item → Local item) ∧
      ∀ cs, value rigour depth cs = valueFrom rigour nested (skipSpace cs) := by
  cases depth with
  | zero => exact ⟨none, nofun, valueOver_eq⟩
  | succ depth =>
    refine ⟨some (value rigour depth), fun item hitem => ?_, valueOver_eq⟩
    obtain rfl := Option.some.inj hitem
    exact local_value rigour depth

/-! Objects. -/

section

variable {rigour : Rigour} {nested : Option (Reader Json)} {cs rest : List Char} {r : Record Json}

theorem number_ne_object : number rigour cs ≠ some (.object r, rest) := by
  intro h
  rw [number_eq] at h
  obtain ⟨⟨n, left⟩, -, hvalue⟩ := Option.bind_eq_some_iff.mp h
  unfold numeralValue at hvalue
  split at hvalue
  · rename_i json hn
    obtain ⟨rfl, -⟩ := Prod.mk.inj (Option.some.inj hvalue)
    simp only [Numeral.value?] at hn
    split at hn
    · split at hn
      · cases hn
      · split at hn <;> cases hn
    · obtain ⟨x, -, hx⟩ := Option.map_eq_some_iff.mp hn
      cases hx
  · cases hvalue
  · cases hvalue

theorem word_eq_some {letters : List Char} {json json' : Json}
    (h : word letters json cs = some (json', rest)) : json' = json := by
  unfold word at h
  split at h
  · exact (Prod.mk.inj (Option.some.inj h)).1.symm
  · cases h

/-- Only an opening brace begins an object. -/
theorem valueFrom_eq_object (h : valueFrom rigour nested cs = some (.object r, rest)) :
    ∃ others, cs = '\x7b' :: others := by
  cases cs with
  | nil => cases h
  | cons c others =>
    simp only [valueFrom] at h
    split at h
    · cases word_eq_some h
    split at h
    · cases word_eq_some h
    split at h
    · cases word_eq_some h
    split at h
    · obtain ⟨_, -, hs⟩ := Option.map_eq_some_iff.mp h
      cases hs
    split at h
    · obtain ⟨_, -, hitems⟩ := Option.bind_eq_some_iff.mp h
      obtain ⟨_, -, hs⟩ := Option.map_eq_some_iff.mp hitems
      cases hs
    split at h
    · rename_i hbrace
      exact ⟨others, by rw [hbrace]⟩
    · exact absurd h number_ne_object

theorem closedBy_valueFrom (h : ∀ item, nested = some item → Local item) :
    ClosedBy '\x7d' fun cs => valueFrom rigour nested ('\x7b' :: cs) := by
  intro cs json rest hr
  cases nested with
  | none => cases hr
  | some item => exact (closedBy_fields (h item rfl) rigour).map ofFields cs json rest hr

/-- An object ends with its closing brace and is read whatever comes after that. -/
theorem value_eq_object {depth : Nat} (h : value rigour depth cs = some (.object r, rest)) :
    ∃ inner, skipSpace cs = '\x7b' :: inner ++ '\x7d' :: rest ∧
      ∀ rest', value rigour depth ('\x7b' :: inner ++ '\x7d' :: rest') =
        some (.object r, rest') := by
  obtain ⟨nested, hnested, hvalue⟩ := value_eq_valueFrom rigour depth
  rw [hvalue] at h
  obtain ⟨others, hopening⟩ := valueFrom_eq_object h
  rw [hopening] at h
  obtain ⟨inner, rfl, hinner⟩ := closedBy_valueFrom hnested _ _ _ h
  refine ⟨inner, hopening, fun rest' => ?_⟩
  rw [hvalue]
  exact hinner rest'

/-- The text of an object, between the blank space around it. -/
theorem ofChars?_eq_object (h : ofChars? cs = some (.object r)) :
    ∃ gap inner space, cs = gap ++ '\x7b' :: inner ++ '\x7d' :: space ∧
      (∀ c ∈ gap, isSpace c = true) ∧ (∀ c ∈ space, isSpace c = true) ∧
      ∀ rest, value .strict maxNesting ('\x7b' :: inner ++ '\x7d' :: rest) =
        some (.object r, rest) := by
  unfold ofChars? ofCharsNested? at h
  split at h
  · rename_i json space hvalue
    split at h
    · rename_i hspace
      obtain rfl := Option.some.inj h
      obtain ⟨inner, hcs, hinner⟩ := value_eq_object hvalue
      refine ⟨cs.takeWhile isSpace, inner, space, ?_, fun c hc => List.mem_takeWhile_imp hc, ?_,
        hinner⟩
      · rw [List.append_assoc, ← hcs, skipSpace, List.takeWhile_append_dropWhile]
      · exact List.dropWhile_eq_nil_iff.mp (List.isEmpty_iff.mp hspace)
    · cases h
  · cases h

theorem ofChars?_of_value {json : Json} {rest : List Char}
    (h : value .strict maxNesting cs = some (json, rest)) :
    ofChars? cs = if rest.all isSpace then some json else none := by
  have hrest : (skipSpace rest).isEmpty = rest.all isSpace := by
    rw [Bool.eq_iff_iff, List.isEmpty_iff, skipSpace, List.dropWhile_eq_nil_iff, List.all_eq_true]
  simp only [ofChars?, ofCharsNested?, h, hrest]

end

end Json

end Stagewise
