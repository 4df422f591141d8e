import Stagewise.Proofs.Token.Front

/-! A scan covers its source. Each token is the longest lexeme at a place of the source, the places
follow one another, and what lies between them is blank, up to the end of the source or to the
place of an error. -/

namespace Stagewise

namespace Token

/-! ### Bytes -/

@[simp] theorem byteLength_append (cs ds : List Char) :
    byteLength (cs ++ ds) = byteLength cs + byteLength ds := by
  induction cs with
  | nil => simp [byteLength]
  | cons c cs ih => simp [byteLength, ih, Nat.add_assoc]

theorem byteLength_pos {cs : List Char} (h : cs ≠ []) : 0 < byteLength cs := by
  obtain ⟨c, ds, rfl⟩ := List.exists_cons_of_ne_nil h
  exact Nat.add_pos_left c.utf8Size_pos _

theorem byteLength_eq_utf8ByteSize (cs : List Char) :
    byteLength cs = (String.ofList cs).utf8ByteSize := by
  induction cs with
  | nil => rfl
  | cons c cs ih =>
    rw [← List.singleton_append, String.ofList_append, String.utf8ByteSize_append, byteLength_append,
      ih, ← String.singleton_eq_ofList, String.utf8ByteSize_singleton]
    simp [byteLength]

/-- Of two places in a text the later one comes after the character at the earlier one. -/
theorem place_cases {read cs before after : List Char} {c d : Char}
    (h : read ++ c :: cs = before ++ d :: after) (hle : byteLength read ≤ byteLength before) :
    d = c ∨ byteLength read + c.utf8Size ≤ byteLength before := by
  rcases List.append_eq_append_iff.mp h with ⟨t, rfl, ht⟩ | ⟨t, rfl, ht⟩
  · cases t with
    | nil => exact .inl (List.cons.inj ht).1.symm
    | cons x t =>
      obtain ⟨rfl, -⟩ := List.cons.inj ht
      exact .inr (by simp [byteLength])
  · cases t with
    | nil => exact .inl (List.cons.inj ht).1
    | cons x t =>
      have := byteLength_pos (List.cons_ne_nil x t)
      rw [byteLength_append] at hle
      omega

/-! ### Spans -/

/-- A token and the characters of the source that it is read from. -/
structure Span where
  token : Token
  text : List Char

namespace Span

def stop (s : Span) : Nat :=
  s.token.position + byteLength s.text

/-- The token starts at a character of the source, and its text is the longest lexeme there. -/
def Reads (s : Span) (source : List Char) : Prop :=
  ∃ before cs, source = before ++ cs ∧ s.token.position = byteLength before ∧
    Front s.token.kind s.text cs

end Span

/-- From one byte of a source up to another there are the spans, in order, and blanks. -/
structure Covers (source : List Char) (start stop : Nat) (spans : List Span) : Prop where
  le : start ≤ stop
  reads : ∀ s ∈ spans, s.Reads source
  bounds : ∀ s ∈ spans, start ≤ s.token.position ∧ s.stop ≤ stop
  disjoint : spans.Pairwise fun s t => s.stop ≤ t.token.position
  gaps : ∀ before c after, source = before ++ c :: after → start ≤ byteLength before →
    byteLength before < stop →
    isBlank c = true ∨ ∃ s ∈ spans, s.token.position ≤ byteLength before ∧ byteLength before < s.stop

namespace Covers

variable {source : List Char} {start stop : Nat} {spans : List Span}

theorem nil (source : List Char) (p : Nat) : Covers source p p [] :=
  ⟨Nat.le_refl p, by simp, by simp, .nil, fun _ _ _ _ hle hlt => by omega⟩

theorem blank {read cs : List Char} {c : Char} (hsource : source = read ++ c :: cs)
    (hblank : isBlank c = true) (h : Covers source (byteLength read + c.utf8Size) stop spans) :
    Covers source (byteLength read) stop spans := by
  refine ⟨Nat.le_of_add_right_le h.le, h.reads, fun s hs => ?_, h.disjoint,
    fun before d after hplace hle hlt => ?_⟩
  · have := h.bounds s hs
    omega
  · rcases place_cases (hsource.symm.trans hplace) hle with rfl | hle
    · exact .inl hblank
    · exact h.gaps before d after hplace hle hlt

theorem token {read text cs : List Char} {kind : TokenKind} (hsource : source = read ++ cs)
    (hfront : Front kind text cs)
    (h : Covers source (byteLength read + byteLength text) stop spans) :
    Covers source (byteLength read) stop (⟨⟨kind, byteLength read⟩, text⟩ :: spans) := by
  refine ⟨Nat.le_of_add_right_le h.le, ?_, ?_, ?_, fun before d after hplace hle hlt => ?_⟩
  · rw [List.forall_mem_cons]
    exact ⟨⟨read, cs, hsource, rfl, hfront⟩, h.reads⟩
  · rw [List.forall_mem_cons]
    refine ⟨⟨Nat.le_refl _, h.le⟩, fun s hs => ?_⟩
    have := h.bounds s hs
    omega
  · exact List.pairwise_cons.mpr ⟨fun s hs => (h.bounds s hs).1, h.disjoint⟩
  · rcases Nat.lt_or_ge (byteLength before) (byteLength read + byteLength text) with hin | hafter
    · exact .inr ⟨_, List.mem_cons_self, hle, hin⟩
    · refine (h.gaps before d after hplace hafter hlt).imp id fun ⟨s, hs, hin⟩ => ?_
      exact ⟨s, List.mem_cons_of_mem _ hs, hin⟩

end Covers

theorem Span.Reads.text_ne_nil {s : Span} {source : List Char} (h : s.Reads source) :
    s.text ≠ [] := by
  obtain ⟨_, _, _, _, hfront⟩ := h
  obtain ⟨c, cs, htext, -⟩ := hfront.lexeme.head
  simp [htext]

theorem Span.Reads.ne_finish {s : Span} {source : List Char} (h : s.Reads source) :
    s.token.kind ≠ .finish := by
  obtain ⟨_, _, _, _, hfront⟩ := h
  exact hfront.lexeme.ne_finish

theorem Covers.increasing {source : List Char} {start stop : Nat} {spans : List Span}
    (h : Covers source start stop spans) :
    spans.Pairwise fun s t => s.token.position < t.token.position := by
  refine h.disjoint.imp_of_mem fun {s t} hs _ hle => ?_
  have := byteLength_pos (h.reads s hs).text_ne_nil
  unfold Span.stop at hle
  omega

/-! ### Runs -/

/-- A scan of a source from a byte on ends with a last token at the end of the source, at a quote
that is not closed, or at a character that no lexeme starts with. -/
inductive ScanEnds (source : List Char) (start : Nat) (spans : List Span) :
    Except ParseError (List Token) → Prop where
  | finish (h : Covers source start (byteLength source) spans) :
    ScanEnds source start spans
      (.ok (spans.map Span.token ++ [⟨.finish, byteLength source⟩]))
  | unclosed {before after : List Char} {c : Char} (hsource : source = before ++ c :: after)
    (h : Covers source start (byteLength before) spans) (hopen : Unclosed c after) :
    ScanEnds source start spans (.error (.unterminatedString (byteLength before)))
  | nothing {before after : List Char} {c : Char} (hsource : source = before ++ c :: after)
    (h : Covers source start (byteLength before) spans) (hblank : isBlank c = false)
    (hnone : ∀ kind text, Lexeme kind text → ¬ text <+: c :: after) :
    ScanEnds source start spans (.error (.unexpectedCharacter c (byteLength before)))

theorem ScanEnds.blank {source read cs : List Char} {c : Char} {spans : List Span}
    {result : Except ParseError (List Token)} (hsource : source = read ++ c :: cs)
    (hblank : isBlank c = true)
    (h : ScanEnds source (byteLength read + c.utf8Size) spans result) :
    ScanEnds source (byteLength read) spans result := by
  cases h with
  | finish h => exact .finish (h.blank hsource hblank)
  | unclosed hplace h hopen => exact .unclosed hplace (h.blank hsource hblank) hopen
  | nothing hplace h hother hnone => exact .nothing hplace (h.blank hsource hblank) hother hnone

theorem ScanEnds.token {source read text cs : List Char} {kind : TokenKind} {spans : List Span}
    {result : Except ParseError (List Token)} (hsource : source = read ++ cs)
    (hfront : Front kind text cs)
    (h : ScanEnds source (byteLength read + byteLength text) spans result) :
    ScanEnds source (byteLength read) (⟨⟨kind, byteLength read⟩, text⟩ :: spans)
      (result.map (⟨kind, byteLength read⟩ :: ·)) := by
  cases h with
  | finish h => exact .finish (h.token hsource hfront)
  | unclosed hplace h hopen => exact .unclosed hplace (h.token hsource hfront) hopen
  | nothing hplace h hother hnone => exact .nothing hplace (h.token hsource hfront) hother hnone

theorem scan_front {kind : TokenKind} {text cs : List Char} (h : Front kind text (text ++ cs))
    (position : Nat) : scan position (text ++ cs) =
      (scan (position + byteLength text) cs).map (⟨kind, position⟩ :: ·) := by
  obtain ⟨c, t, rfl, hblank⟩ := h.lexeme.head
  rw [List.cons_append] at h ⊢
  rw [scan_of_ok (by simp [hblank]) (lexeme_of_front h position), ← List.cons_append,
    List.drop_left]

/-- The spans of a scan are places in the whole source, what has been read already included. -/
theorem scanEnds_scan (source : List Char) (position : Nat) (cs : List Char) :
    ∀ read, source = read ++ cs → position = byteLength read →
      ∃ spans, ScanEnds source position spans (scan position cs) := by
  induction position, cs using scan.induct with
  | case1 position =>
    rintro read hsource rfl
    rw [List.append_nil] at hsource
    subst hsource
    rw [scan_nil]
    exact ⟨[], .finish (.nil _ _)⟩
  | case2 position c cs hblank ih =>
    rintro read hsource rfl
    obtain ⟨spans, h⟩ := ih (read ++ [c]) (by simp [hsource]) (by simp [byteLength])
    rw [scan_blank hblank]
    exact ⟨spans, h.blank hsource hblank⟩
  | case3 position c cs hblank kind text hlexeme ih =>
    rintro read hsource rfl
    have hscanned := scanned_lexeme (byteLength read) c cs
    rw [hlexeme] at hscanned
    cases hscanned with
    | token hfront =>
      obtain ⟨rest, hrest⟩ := hfront.longest.front
      have hdrop : (c :: cs).drop text.length = rest := by rw [← hrest, List.drop_left]
      rw [scan_of_ok hblank hlexeme]
      rw [hdrop] at ih ⊢
      obtain ⟨spans, h⟩ := ih (read ++ text) (by simp [hsource, hrest]) (by simp)
      exact ⟨_, h.token hsource hfront⟩
  | case4 position c cs hblank e hlexeme =>
    rintro read hsource rfl
    have hscanned := scanned_lexeme (byteLength read) c cs
    rw [scan_of_error hblank hlexeme]
    rw [hlexeme] at hscanned
    cases hscanned with
    | unclosed hopen => exact ⟨[], .unclosed hsource (.nil _ _) hopen⟩
    | nothing hnone => exact ⟨[], .nothing hsource (.nil _ _) (by simpa using hblank) hnone⟩

theorem ScanEnds.covers {source : List Char} {start : Nat} {spans : List Span}
    {result : Except ParseError (List Token)} (h : ScanEnds source start spans result) :
    ∃ stop, Covers source start stop spans := by
  cases h with
  | finish h => exact ⟨_, h⟩
  | unclosed _ h => exact ⟨_, h⟩
  | nothing _ h => exact ⟨_, h⟩

theorem ScanEnds.ne_invalidNumber {source : List Char} {start : Nat} {spans : List Span}
    {text : String} {position : Nat} :
    ¬ ScanEnds source start spans (.error (.invalidNumber text position)) :=
  nofun

/-- The tokens of a text are read from spans of it that nothing but blanks parts, the last token
stands at its end, and an error names the first place where no lexeme is. No number is refused. -/
theorem ofText_covers_source (source : String) :
    byteLength source.toList = source.utf8ByteSize ∧
      (∀ text position, ofText source ≠ .error (.invalidNumber text position)) ∧
      ∃ spans, ScanEnds source.toList 0 spans (ofText source) ∧
        (∀ s ∈ spans, s.text ≠ [] ∧ s.token.kind ≠ .finish) ∧
        spans.Pairwise fun s t => s.token.position < t.token.position := by
  obtain ⟨spans, h⟩ := scanEnds_scan source.toList 0 source.toList [] rfl rfl
  change ScanEnds source.toList 0 spans (ofText source) at h
  obtain ⟨stop, hcovers⟩ := h.covers
  refine ⟨by rw [byteLength_eq_utf8ByteSize, String.ofList_toList], fun text position he => ?_,
    spans, h, fun s hs => ?_, hcovers.increasing⟩
  · exact ScanEnds.ne_invalidNumber (he ▸ h)
  · exact ⟨(hcovers.reads s hs).text_ne_nil, (hcovers.reads s hs).ne_finish⟩

end Token

end Stagewise
