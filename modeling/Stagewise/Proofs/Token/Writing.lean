import Stagewise.Proofs.Token.Cover

/-! Written texts. Items with blanks between them are scanned as one token each, at the byte where
the item starts. Any string is the payload of an item, between either of the two quotes. -/

namespace Stagewise

namespace Token

/-! ### Items -/

/-- The characters with a backslash before every backslash and every quote. -/
def escaped (quote : Char) (cs : List Char) : List Char :=
  cs.flatMap fun c => if c = '\\' ∨ c = quote then ['\\', c] else [c]

/-- What a formula is written with. -/
inductive Item where
  | number (text : List Char) (d : Decimal) (h : Numeral text d)
  | name (text : List Char) (h : IsName text)
  | symbol (s : Symbol)
  | quoted (quote : Char) (h : IsQuote quote) (s : String)

namespace Item

def text : Item → List Char
  | number text _ _ => text
  | name text _ => text
  | symbol s => s.text.toList
  | quoted quote _ s => quote :: (escaped quote s.toList ++ [quote])

def kind : Item → TokenKind
  | number _ d _ => .number d.toFloat
  | name text _ => .name (String.ofList text)
  | symbol s => .symbol s
  | quoted _ _ s => .text s

end Item

theorem spells_escaped {quote : Char} (h : IsQuote quote) (cs : List Char) :
    Spells quote (escaped quote cs) cs := by
  unfold escaped
  induction cs with
  | nil => exact .nil
  | cons c cs ih =>
    rw [List.flatMap_cons]
    split_ifs with hc
    · have hself : Escape c c := by
        rcases hc with rfl | rfl
        · exact .self (by decide) (by decide)
        · rcases h with rfl | rfl <;> exact .self (by decide) (by decide)
      exact .escaped hself ih
    · obtain ⟨hb, hq⟩ := not_or.mp hc
      exact .plain hq hb ih

example : escaped '"' ['a', '"', '\\'] = ['a', '\\', '"', '\\', '\\'] := by decide

theorem Item.lexeme (item : Item) : Lexeme item.kind item.text := by
  cases item with
  | number text d h => exact .number h
  | name text h => exact .name h
  | symbol s => exact .symbol s
  | quoted quote h s =>
    have hlexeme := Lexeme.text h (spells_escaped h s.toList)
    rwa [String.ofList_toList] at hlexeme

/-! ### Blanks end an item -/

theorem Exponent.mem {t : List Char} {e : Int} (h : Exponent t e) {c : Char} (hc : c ∈ t) :
    c = 'e' ∨ c = 'E' ∨ c = '+' ∨ c = '-' ∨ c.isDigit = true := by
  cases h with
  | none => cases hc
  | mark hm hs h =>
    rcases List.mem_cons.mp hc with rfl | hc
    · exact hm.imp_right .inl
    rcases List.mem_append.mp hc with hc | hc
    · cases hs with
      | none => cases hc
      | plus => exact .inr (.inr (.inl (List.mem_singleton.mp hc)))
      | minus => exact .inr (.inr (.inr (.inl (List.mem_singleton.mp hc))))
    · exact .inr (.inr (.inr (.inr (h.2 c hc))))

theorem isBlank_of_isDigit {c : Char} (h : c.isDigit = true) : isBlank c = false :=
  isBlank_of_isNamePart (isNamePart_of_isDigit h)

theorem Numeral.isBlank_eq_false {text : List Char} {d : Decimal} (h : Numeral text d) {c : Char}
    (hc : c ∈ text) : isBlank c = false := by
  obtain ⟨hw, hf, he⟩ := h
  rcases List.mem_append.mp hc with hc | hc
  · exact isBlank_of_isDigit (hw.2 c hc)
  rcases List.mem_append.mp hc with hc | hc
  · rcases hf.mem hc with rfl | hdigit
    · decide
    · exact isBlank_of_isDigit hdigit
  · rcases he.mem hc with rfl | rfl | rfl | rfl | hdigit
    · decide
    · decide
    · decide
    · decide
    · exact isBlank_of_isDigit hdigit

theorem IsName.isBlank_eq_false {text : List Char} (h : IsName text) {c : Char} (hc : c ∈ text) :
    isBlank c = false :=
  isBlank_of_isNamePart (h.isNamePart hc)

theorem symbol_isBlank_eq_false (s : Symbol) {c : Char} (hc : c ∈ s.text.toList) :
    isBlank c = false := by
  have hall : s.text.toList.all (! isBlank ·) = true := by cases s <;> decide
  simpa using List.all_eq_true.mp hall c hc

theorem Lexeme.isBlank_eq_false {kind : TokenKind} {c : Char} {cs : List Char}
    (h : Lexeme kind (c :: cs)) (hquote : ¬ IsQuote c) {d : Char} (hd : d ∈ c :: cs) :
    isBlank d = false := by
  generalize htext : c :: cs = text at h hd
  cases h with
  | number h => exact h.isBlank_eq_false hd
  | name h => exact h.isBlank_eq_false hd
  | symbol s => exact symbol_isBlank_eq_false s hd
  | text hq =>
    cases htext
    exact absurd hq hquote

theorem length_le_of_isBlank {longer text rest : List Char} (hfront : longer <+: text ++ rest)
    (hlonger : ∀ c ∈ longer, isBlank c = false)
    (hrest : ∀ c t, rest = c :: t → isBlank c = true) : longer.length ≤ text.length := by
  refine Nat.le_of_not_lt fun hlt => ?_
  obtain ⟨u, rfl⟩ := List.prefix_of_prefix_length_le (List.prefix_append text rest) hfront
    (Nat.le_of_lt hlt)
  cases u with
  | nil => simp at hlt
  | cons c u =>
    obtain ⟨t, ht⟩ := (List.prefix_append_right_inj text).mp hfront
    have hblank := hrest c (u ++ t) ht.symm
    rw [hlonger c (by simp)] at hblank
    cases hblank

/-- A lexeme before a blank or at the end of the text is not part of a longer one. -/
theorem Lexeme.front {kind : TokenKind} {text rest : List Char} (h : Lexeme kind text)
    (hrest : ∀ c t, rest = c :: t → isBlank c = true) : Front kind text (text ++ rest) := by
  obtain ⟨c, cs, rfl, -⟩ := h.head
  by_cases hquote : IsQuote c
  · obtain ⟨written, payload, rfl, hspells⟩ := h.text_of_isQuote hquote
    obtain rfl := h.kind_unique (.text hquote hspells)
    exact front_of_spells hquote hspells (List.prefix_append _ rest)
  · refine ⟨h, ⟨kind, h⟩, List.prefix_append _ _, ?_⟩
    rintro longer ⟨k, hk⟩ hfront
    obtain ⟨d, t, rfl, -⟩ := hk.head
    obtain ⟨rfl, -⟩ := List.cons_prefix_cons.mp hfront
    exact length_le_of_isBlank hfront (fun _ => hk.isBlank_eq_false hquote) hrest

/-! ### Layouts -/

/-- Items with blanks before each of them and after the last. Between two of them there is at least
one blank. -/
structure Layout where
  parts : List (List Char × Item)
  last : List Char
  blank : ∀ part ∈ parts, ∀ c ∈ part.1, isBlank c = true
  blank_last : ∀ c ∈ last, isBlank c = true
  apart : ∀ part ∈ parts.tail, part.1 ≠ []

def written : List (List Char × Item) → List Char → List Char
  | [], last => last
  | (gap, item) :: parts, last => gap ++ (item.text ++ written parts last)

/-- The tokens of items that are written from a byte on. -/
def placed : Nat → List (List Char × Item) → List Token
  | _, [] => []
  | position, (gap, item) :: parts =>
    ⟨item.kind, position + byteLength gap⟩ ::
      placed (position + byteLength gap + byteLength item.text) parts

namespace Layout

def items (l : Layout) : List Item :=
  l.parts.map Prod.snd

def text (l : Layout) : String :=
  String.ofList (written l.parts l.last)

def tokens (l : Layout) : List Token :=
  placed 0 l.parts ++ [⟨.finish, l.text.utf8ByteSize⟩]

end Layout

theorem scan_blanks {gap : List Char} (h : ∀ c ∈ gap, isBlank c = true) (position : Nat)
    (cs : List Char) : scan position (gap ++ cs) = scan (position + byteLength gap) cs := by
  induction gap generalizing position with
  | nil => rfl
  | cons c gap ih =>
    rw [List.forall_mem_cons] at h
    rw [List.cons_append, scan_blank h.1, ih h.2, byteLength, Nat.add_assoc]

theorem written_starts_blank {parts : List (List Char × Item)} {last : List Char}
    (hblank : ∀ part ∈ parts, ∀ c ∈ part.1, isBlank c = true)
    (hlast : ∀ c ∈ last, isBlank c = true) (happart : ∀ part ∈ parts, part.1 ≠ []) (c : Char)
    (t : List Char) (h : written parts last = c :: t) : isBlank c = true := by
  cases parts with
  | nil => exact hlast c (by rw [show last = c :: t from h]; exact List.mem_cons_self)
  | cons part parts =>
    obtain ⟨gap, item⟩ := part
    obtain ⟨d, gap, rfl⟩ := List.exists_cons_of_ne_nil (happart _ List.mem_cons_self)
    obtain ⟨rfl, -⟩ := List.cons.inj h
    exact hblank _ List.mem_cons_self _ List.mem_cons_self

theorem scan_written {last : List Char} (hlast : ∀ c ∈ last, isBlank c = true)
    (parts : List (List Char × Item)) (position : Nat)
    (hblank : ∀ part ∈ parts, ∀ c ∈ part.1, isBlank c = true)
    (happart : ∀ part ∈ parts.tail, part.1 ≠ []) :
    scan position (written parts last) =
      .ok (placed position parts ++ [⟨.finish, position + byteLength (written parts last)⟩]) := by
  induction parts generalizing position with
  | nil =>
    have hend := scan_blanks hlast position []
    rw [List.append_nil, scan_nil] at hend
    exact hend
  | cons part parts ih =>
    obtain ⟨gap, item⟩ := part
    rw [List.forall_mem_cons] at hblank
    have hfront := item.lexeme.front (written_starts_blank hblank.2 hlast happart)
    have hrest := ih (position + byteLength gap + byteLength item.text) hblank.2
      fun part hpart => happart part (List.mem_of_mem_tail hpart)
    rw [written, scan_blanks hblank.1, scan_front hfront, hrest]
    simp [placed, Except.map, Nat.add_assoc]

theorem ofText_layout (l : Layout) : ofText l.text = .ok l.tokens := by
  have hscan := scan_written l.blank_last l.parts 0 l.blank l.apart
  rw [Nat.zero_add, byteLength_eq_utf8ByteSize] at hscan
  rw [ofText, Layout.text, String.toList_ofList, hscan]
  rfl

end Token

end Stagewise
