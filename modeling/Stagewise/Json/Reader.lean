import Stagewise.Json.Numeral

/-! Reading of JSON texts. A reader takes characters from the front of a text and returns what it
read and what is left, or nothing when the text is broken. Objects and arrays are read by a tower of
readers, one for each level of nesting that is still allowed. -/

namespace Stagewise

namespace Json

abbrev Reader (α : Type) := List Char → Option (α × List Char)

/-- A lax reading only checks the form: surrogate escapes need no partner and no number is too
large. -/
inductive Rigour where
  | strict
  | lax
deriving DecidableEq

/-- The levels of nesting that a text may have. -/
def maxNesting : Nat := 127

def isSpace (c : Char) : Bool :=
  c = ' ' || c = '\t' || c = '\n' || c = '\r'

def skipSpace (cs : List Char) : List Char :=
  cs.dropWhile isSpace

/-- The rest of a word whose first letter decided what it must be. -/
def word (rest : List Char) (value : Json) : Reader Json := fun cs =>
  if rest.isPrefixOf cs then some (value, cs.drop rest.length) else none

def hexValue? (c : Char) : Option Nat :=
  if c.isDigit then some (c.toNat - '0'.toNat)
  else if 'a' ≤ c ∧ c ≤ 'f' then some (c.toNat - 'a'.toNat + 10)
  else if 'A' ≤ c ∧ c ≤ 'F' then some (c.toNat - 'A'.toNat + 10)
  else none

/-- Four hexadecimal digits. -/
def hexUnit : Reader Nat
  | a :: b :: c :: d :: rest => do
    let a ← hexValue? a
    let b ← hexValue? b
    let c ← hexValue? c
    let d ← hexValue? d
    some (((a * 16 + b) * 16 + c) * 16 + d, rest)
  | _ => none

/-- The second half of a surrogate pair whose first half has been read. -/
def lowSurrogate (high : Nat) : Reader Char
  | '\\' :: 'u' :: rest =>
    match hexUnit rest with
    | some (low, rest) =>
      if 0xdc00 ≤ low ∧ low < 0xe000 then
        some (Char.ofNat (0x10000 + (high - 0xd800) * 0x400 + (low - 0xdc00)), rest)
      else none
    | none => none
  | _ => none

/-- A character given by its UTF-16 units, after the first `\u`. -/
def unicodeEscape (rigour : Rigour) : Reader Char := fun cs =>
  match hexUnit cs with
  | some (unit, rest) =>
    if rigour = .lax then some (Char.ofNat unit, rest)
    else if unit < 0xd800 ∨ 0xe000 ≤ unit then some (Char.ofNat unit, rest)
    else if unit < 0xdc00 then lowSurrogate unit rest
    else none
  | none => none

/-- The character that one letter after a backslash stands for. -/
def shortEscape? (c : Char) : Option Char :=
  if c = '"' ∨ c = '\\' ∨ c = '/' then some c
  else if c = 'b' then some '\x08'
  else if c = 'f' then some '\x0c'
  else if c = 'n' then some '\n'
  else if c = 'r' then some '\r'
  else if c = 't' then some '\t'
  else none

/-- The character that is written after a backslash. -/
def escape (rigour : Rigour) : Reader Char
  | [] => none
  | c :: rest =>
    if c = 'u' then unicodeEscape rigour rest
    else (shortEscape? c).map fun e => (e, rest)

theorem hexUnit_length {cs rest : List Char} {n : Nat} (h : hexUnit cs = some (n, rest)) :
    rest.length < cs.length := by
  match cs with
  | [] | [_] | [_, _] | [_, _, _] => simp [hexUnit] at h
  | a :: b :: c :: d :: r =>
    simp only [hexUnit, Option.bind_eq_bind, Option.bind_eq_some_iff] at h
    obtain ⟨_, _, _, _, _, _, _, _, h⟩ := h
    simp only [Option.some.injEq, Prod.mk.injEq] at h
    simp only [← h.2, List.length_cons]
    omega

theorem lowSurrogate_length {high : Nat} {cs rest : List Char} {c : Char}
    (h : lowSurrogate high cs = some (c, rest)) : rest.length < cs.length := by
  unfold lowSurrogate at h
  split at h
  · split at h
    · rename_i hu
      split at h
      · simp only [Option.some.injEq, Prod.mk.injEq] at h
        have := hexUnit_length hu
        simp only [← h.2, List.length_cons]
        omega
      · simp at h
    · simp at h
  · simp at h

theorem unicodeEscape_length {rigour : Rigour} {cs rest : List Char} {c : Char}
    (h : unicodeEscape rigour cs = some (c, rest)) : rest.length < cs.length := by
  unfold unicodeEscape at h
  split at h
  · rename_i hu
    have hl := hexUnit_length hu
    split at h
    · simp only [Option.some.injEq, Prod.mk.injEq] at h
      simpa only [← h.2] using hl
    · split at h
      · simp only [Option.some.injEq, Prod.mk.injEq] at h
        simpa only [← h.2] using hl
      · split at h
        · exact Nat.lt_trans (lowSurrogate_length h) hl
        · simp at h
  · simp at h

theorem escape_length {rigour : Rigour} {cs rest : List Char} {c : Char}
    (h : escape rigour cs = some (c, rest)) : rest.length < cs.length := by
  cases cs with
  | nil => simp [escape] at h
  | cons x cs =>
    by_cases hx : x = 'u'
    · simp only [escape, if_pos hx] at h
      exact Nat.lt_succ_of_lt (unicodeEscape_length h)
    · simp only [escape, if_neg hx, Option.map_eq_some_iff, Prod.mk.injEq] at h
      obtain ⟨_, _, _, rfl⟩ := h
      exact Nat.lt_succ_self _

/-- The characters of a string up to its closing quote. -/
def stringBody (rigour : Rigour) (cs : List Char) : Option (List Char × List Char) :=
  match cs with
  | [] => none
  | c :: rest =>
    if c = '"' then some ([], rest)
    else if c = '\\' then
      match _h : escape rigour rest with
      | some (e, rest') => (stringBody rigour rest').map fun read => (e :: read.1, read.2)
      | none => none
    else if c.toNat < 0x20 then none
    else (stringBody rigour rest).map fun read => (c :: read.1, read.2)
termination_by cs.length
decreasing_by
  · have := escape_length ‹_›
    simp only [List.length_cons]
    omega
  · simp

def string (rigour : Rigour) : Reader String := fun cs =>
  (stringBody rigour cs).map fun read => (String.ofList read.1, read.2)

def digits (cs : List Char) : List Char × List Char :=
  (cs.takeWhile Char.isDigit, cs.dropWhile Char.isDigit)

/-- The digits before the point: a zero stands alone. -/
def wholePart : Reader (List Char) := fun cs =>
  match digits cs with
  | ([], _) => none
  | ('0' :: _ :: _, _) => none
  | (ds, rest) => some (ds, rest)

def fractionPart : Reader (List Char)
  | '.' :: cs =>
    match digits cs with
    | ([], _) => none
    | (ds, rest) => some (ds, rest)
  | cs => some ([], cs)

def exponentDigits (negative : Bool) : Reader Int := fun cs =>
  match digits cs with
  | ([], _) => none
  | (ds, rest) =>
    let n : Int := Decimal.digitsValue ds
    some (if negative then -n else n, rest)

/-- The exponent, if one is written. -/
def exponentPart : Reader (Option Int)
  | c :: cs =>
    if c = 'e' ∨ c = 'E' then
      let read := match cs with
        | '-' :: cs => exponentDigits true cs
        | '+' :: cs => exponentDigits false cs
        | cs => exponentDigits false cs
      read.map fun (e, rest) => (some e, rest)
    else some (none, c :: cs)
  | [] => some (none, [])

/-- A number without its sign. -/
def numeral (negative : Bool) : Reader Numeral := fun cs => do
  let (whole, rest) ← wholePart cs
  let (fraction, rest) ← fractionPart rest
  let (exponent, rest) ← exponentPart rest
  let marked := !fraction.isEmpty || exponent.isSome
  some (⟨negative, whole, fraction, exponent.getD 0, marked⟩, rest)

def number (rigour : Rigour) : Reader Json := fun cs => do
  let (n, rest) ← match cs with
    | '-' :: cs => numeral true cs
    | cs => numeral false cs
  match n.value?, rigour with
  | some value, _ => some (value, rest)
  | none, .lax => some (.null, rest)
  | none, .strict => none

/-- Items up to the closing bracket, the first of them still to come. Every item takes a character,
so as many rounds as there are characters are enough: the first argument only counts them. -/
def itemsFrom (item : Reader Json) : List Char → Reader (List Json)
  | [], _ => none
  | _ :: rounds, cs =>
    match item cs with
    | none => none
    | some (value, rest) =>
      match skipSpace rest with
      | ']' :: rest => some ([value], rest)
      | ',' :: rest =>
        (itemsFrom item rounds rest).map fun read => (value :: read.1, read.2)
      | _ => none

/-- The items of an array, after its opening bracket. -/
def items (item : Reader Json) : Reader (List Json) := fun cs =>
  match skipSpace cs with
  | ']' :: rest => some ([], rest)
  | cs => itemsFrom item cs cs

/-- A name and the colon after it. -/
def fieldName (rigour : Rigour) : Reader String := fun cs =>
  match skipSpace cs with
  | '"' :: rest =>
    match string rigour rest with
    | some (name, rest) =>
      match skipSpace rest with
      | ':' :: rest => some (name, rest)
      | _ => none
    | none => none
  | _ => none

def field (rigour : Rigour) (item : Reader Json) : Reader (String × Json) := fun cs => do
  let (name, rest) ← fieldName rigour cs
  let (value, rest) ← item rest
  some ((name, value), rest)

/-- Fields up to the closing brace, the first of them still to come, in as many rounds as there are
characters. -/
def fieldsFrom (entry : Reader (String × Json)) : List Char → Reader (List (String × Json))
  | [], _ => none
  | _ :: rounds, cs =>
    match entry cs with
    | none => none
    | some (value, rest) =>
      match skipSpace rest with
      | '\x7d' :: rest => some ([value], rest)
      | ',' :: rest =>
        (fieldsFrom entry rounds rest).map fun read => (value :: read.1, read.2)
      | _ => none

/-- The fields of an object, after its opening brace. -/
def fields (entry : Reader (String × Json)) : Reader (List (String × Json)) := fun cs =>
  match skipSpace cs with
  | '\x7d' :: rest => some ([], rest)
  | cs => fieldsFrom entry cs cs

/-- A value whose arrays and objects are read by the given reader of nested values, if there is
one. -/
def valueOver (rigour : Rigour) (nested : Option (Reader Json)) : Reader Json := fun cs =>
  match skipSpace cs with
  | [] => none
  | c :: rest =>
    if c = 'n' then word ['u', 'l', 'l'] .null rest
    else if c = 't' then word ['r', 'u', 'e'] (.bool true) rest
    else if c = 'f' then word ['a', 'l', 's', 'e'] (.bool false) rest
    else if c = '"' then (string rigour rest).map fun (s, rest) => (.text s, rest)
    else if c = '[' then do
      let (values, rest) ← items (← nested) rest
      some (.array values, rest)
    else if c = '\x7b' then do
      let (entries, rest) ← fields (field rigour (← nested)) rest
      some (ofFields entries, rest)
    else number rigour (c :: rest)

/-- A value with at most the given levels of nesting. -/
def value (rigour : Rigour) (depth : Nat) (cs : List Char) : Option (Json × List Char) :=
  match depth with
  | 0 => valueOver rigour none cs
  | depth + 1 => valueOver rigour (some (value rigour depth)) cs

/-- A value that is checked for its form only. No text nests deeper than it is long. -/
def skipped : Reader Unit := fun cs =>
  (value .lax cs.length cs).map fun read => ((), read.2)

/-- The value of a whole text with at most the given levels of nesting. -/
def ofCharsNested? (depth : Nat) (cs : List Char) : Option Json :=
  match value .strict depth cs with
  | some (json, rest) => if (skipSpace rest).isEmpty then some json else none
  | none => none

def ofChars? (cs : List Char) : Option Json :=
  ofCharsNested? maxNesting cs

def ofText? (s : String) : Option Json :=
  ofChars? s.toList

/-- What stands in a message for the account of where a text is broken. -/
def brokenText : String := "<parser>"

end Json

end Stagewise
