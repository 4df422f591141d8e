import Stagewise.Formula.ParseError
import Stagewise.Text.Blank
import Stagewise.Text.Letter

/-! Splitting of formula text into tokens. At each place that is not blank the longest number, name
or operator is taken, or a whole string, and a token remembers the byte at which it starts. -/

namespace Stagewise

namespace Token

/-- The number of bytes of a text in UTF-8. -/
def byteLength : List Char → Nat
  | [] => 0
  | c :: cs => c.utf8Size + byteLength cs

def isNameStart (c : Char) : Bool :=
  isLetter c || c = '_' || c = '$'

def isNamePart (c : Char) : Bool :=
  isLetter c || isNumeral c || c = '_' || c = '$'

/-- A point and the digits after it, at the front of a text. A point without a digit is left. -/
def fractionText : List Char → List Char
  | '.' :: cs =>
    match cs.takeWhile Char.isDigit with
    | [] => []
    | ds => '.' :: ds
  | _ => []

/-- An exponent at the front of a text. One without a digit is left. -/
def exponentText : List Char → List Char
  | mark :: cs =>
    if mark = 'e' ∨ mark = 'E' then
      let sign := match cs with
        | c :: _ => if c = '+' ∨ c = '-' then [c] else []
        | [] => []
      match (cs.drop sign.length).takeWhile Char.isDigit with
      | [] => []
      | ds => mark :: sign ++ ds
    else []
  | [] => []

/-- The longest number at the front of a text that starts with a digit. -/
def numberText (cs : List Char) : List Char :=
  let whole := cs.takeWhile Char.isDigit
  let afterWhole := cs.drop whole.length
  let fraction := fractionText afterWhole
  whole ++ fraction ++ exponentText (afterWhole.drop fraction.length)

def numberValue? (text : List Char) : Option Float :=
  (Decimal.ofChars? text).map Decimal.toFloat

def unescaped (c : Char) : Char :=
  if c = 'n' then '\n' else if c = 't' then '\t' else c

/-- The payload of a string up to the quote that closes it, and the text of both. A backslash takes
the next character as it is, but for `n` and `t`. -/
def quotedText? (quote : Char) : List Char → Option (List Char × List Char)
  | [] => none
  | ['\\'] => none
  | '\\' :: c :: cs =>
    (quotedText? quote cs).map fun read => (unescaped c :: read.1, '\\' :: c :: read.2)
  | c :: cs =>
    if c = quote then some ([], [c])
    else (quotedText? quote cs).map fun read => (c :: read.1, c :: read.2)

/-- The longest operator at the front of a text. -/
def symbol? : List Char → Option Symbol
  | '(' :: _ => some .leftParen
  | ')' :: _ => some .rightParen
  | '[' :: _ => some .leftBracket
  | ']' :: _ => some .rightBracket
  | ',' :: _ => some .comma
  | '.' :: _ => some .dot
  | '?' :: _ => some .question
  | ':' :: _ => some .colon
  | '+' :: _ => some .plus
  | '-' :: _ => some .minus
  | '*' :: _ => some .star
  | '/' :: _ => some .slash
  | '%' :: _ => some .percent
  | '&' :: '&' :: _ => some .and
  | '|' :: '|' :: _ => some .or
  | '=' :: '>' :: _ => some .arrow
  | '=' :: '=' :: '=' :: _ => some .same
  | '=' :: '=' :: _ => some .equal
  | '!' :: '=' :: '=' :: _ => some .notSame
  | '!' :: '=' :: _ => some .notEqual
  | '!' :: _ => some .bang
  | '<' :: '=' :: _ => some .atMost
  | '<' :: _ => some .less
  | '>' :: '=' :: _ => some .atLeast
  | '>' :: _ => some .greater
  | _ => none

/-- The token at the front of a text that starts with `c`, which is not blank, and the characters it
is written with. -/
def lexeme (position : Nat) (c : Char) (cs : List Char) :
    Except ParseError (TokenKind × List Char) :=
  if c.isDigit then
    match numberValue? (numberText (c :: cs)) with
    | some x => .ok (.number x, numberText (c :: cs))
    | none => .error (.invalidNumber (String.ofList (numberText (c :: cs))) position)
  else if isNameStart c then
    let text := c :: cs.takeWhile isNamePart
    .ok (.name (String.ofList text), text)
  else if c = '"' ∨ c = '\x27' then
    match quotedText? c cs with
    | some (payload, text) => .ok (.text (String.ofList payload), c :: text)
    | none => .error (.unterminatedString position)
  else
    match symbol? (c :: cs) with
    | some s => .ok (.symbol s, s.text.toList)
    | none => .error (.unexpectedCharacter c position)

theorem takeWhile_ne_nil {p : Char → Bool} {c : Char} (cs : List Char) (h : p c = true) :
    (c :: cs).takeWhile p ≠ [] := by
  simp [h]

theorem numberText_ne_nil {c : Char} (cs : List Char) (h : c.isDigit = true) :
    numberText (c :: cs) ≠ [] := by
  have := takeWhile_ne_nil cs h
  simp only [numberText, ne_eq, List.append_eq_nil_iff, not_and]
  intro h
  simp_all

theorem symbol_text_ne_nil (s : Symbol) : s.text.toList ≠ [] := by
  cases s <;> decide

theorem lexeme_ne_nil {position : Nat} {c : Char} {cs text : List Char} {kind : TokenKind}
    (h : lexeme position c cs = .ok (kind, text)) : text ≠ [] := by
  unfold lexeme at h
  split at h
  · rename_i hd
    split at h
    · simp only [Except.ok.injEq, Prod.mk.injEq] at h
      exact h.2 ▸ numberText_ne_nil cs hd
    · simp at h
  · split at h
    · simp only [Except.ok.injEq, Prod.mk.injEq] at h
      simp [← h.2]
    · split at h
      · split at h
        · simp only [Except.ok.injEq, Prod.mk.injEq] at h
          simp [← h.2]
        · simp at h
      · split at h
        · simp only [Except.ok.injEq, Prod.mk.injEq] at h
          exact h.2 ▸ symbol_text_ne_nil _
        · simp at h

/-- The tokens of a text that starts at the given byte, with a last one at its end. -/
def scan (position : Nat) (cs : List Char) : Except ParseError (List Token) :=
  match cs with
  | [] => .ok [⟨.finish, position⟩]
  | c :: rest =>
    if isBlank c then scan (position + c.utf8Size) rest
    else
      match _h : lexeme position c rest with
      | .ok (kind, text) =>
        (scan (position + byteLength text) ((c :: rest).drop text.length)).map
          (⟨kind, position⟩ :: ·)
      | .error e => .error e
termination_by cs.length
decreasing_by
  · simp
  · have := List.length_pos_iff.2 (lexeme_ne_nil ‹_›)
    simp only [List.length_drop, List.length_cons]
    omega

theorem scan_nil (position : Nat) : scan position [] = .ok [⟨.finish, position⟩] := by
  unfold scan
  rfl

theorem scan_blank {c : Char} (h : isBlank c = true) (position : Nat) (cs : List Char) :
    scan position (c :: cs) = scan (position + c.utf8Size) cs := by
  conv => lhs; unfold scan
  rw [if_pos h]

theorem scan_of_ok {position : Nat} {c : Char} {cs text : List Char} {kind : TokenKind}
    (hblank : ¬ isBlank c = true) (h : lexeme position c cs = .ok (kind, text)) :
    scan position (c :: cs) = (scan (position + byteLength text) ((c :: cs).drop text.length)).map
      (⟨kind, position⟩ :: ·) := by
  conv => lhs; unfold scan
  rw [if_neg hblank]
  split
  · rename_i h'
    cases h.symm.trans h'
    rfl
  · rename_i h'
    cases h.symm.trans h'

theorem scan_of_error {position : Nat} {c : Char} {cs : List Char} {e : ParseError}
    (hblank : ¬ isBlank c = true) (h : lexeme position c cs = .error e) :
    scan position (c :: cs) = .error e := by
  unfold scan
  rw [if_neg hblank]
  split
  · rename_i h'
    cases h.symm.trans h'
  · rename_i h'
    cases h.symm.trans h'
    rfl

def ofText (source : String) : Except ParseError (List Token) :=
  scan 0 source.toList

end Token

end Stagewise
