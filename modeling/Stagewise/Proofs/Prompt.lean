import Stagewise.Prompt
import Stagewise.Proofs.Document.Reload
import Stagewise.Proofs.Json.Assembly

/-! The document that a prompt shows as the wanted shape. With the id of a widget in its place it is
one that is accepted for the session and stage of the request, provided that the session's name
needs no escapes: it stands in the text as it is. -/

namespace Stagewise

namespace Prompt

theorem toList_lines (ls : List String) :
    (lines ls).toList = ls.flatMap fun line => line.toList ++ ['\n'] := by
  simp [lines, List.flatMap_map]

theorem lines_append (ls ls' : List String) : lines (ls ++ ls') = lines ls ++ lines ls' := by
  apply String.toList_inj.mp
  simp only [toList_lines, String.toList_append, List.flatMap_append]

theorem lines_cons (line : String) (ls : List String) :
    lines (line :: ls) = line ++ "\n" ++ lines ls :=
  lines_append [line] ls

theorem toList_lines_cons_append (line : String) (ls : List String) (rest : List Char) :
    (lines (line :: ls)).toList ++ rest = line.toList ++ '\n' :: ((lines ls).toList ++ rest) := by
  simp [toList_lines]

/-- A line with a text between quotes and a comma after it. -/
theorem toList_quoted_append (label s : String) (rest : List Char) :
    (label ++ s ++ "\",").toList ++ rest = label.toList ++ (s.toList ++ '"' :: ',' :: rest) := by
  simp

/-- The lines of the skeleton before the one with the widget's id. -/
def linesBefore (r : Request) : List String :=
  ["\x7b",
   "  \"sessionId\": \"" ++ r.sessionId ++ "\",",
   "  \"stage\": \"" ++ r.stage.name ++ "\",",
   "  \"oodm\": \x7b\x7d,",
   "  \"dependencyGraph\": \x7b \"nodes\": [], \"edges\": [] \x7d,",
   "  \"widgets\": [",
   "    \x7b",
   "      \"id\": \"widget-1\","]

/-- The lines of the widget after its id, with its closing brace. -/
def widgetLines : List String :=
  ["      \"position\": 0,",
   "      \"layout\": \x7b\x7d,",
   "      \"config\": \x7b\x7d,",
   "      \"inputs\": [],",
   "      \"outputs\": [],",
   "      \"reactiveBindings\": [],",
   "      \"metadata\": \x7b \"timing\": \"\", \"versatility\": \"\", \"bottleneck\": [], " ++
     "\"description\": \"\" \x7d",
   "    \x7d"]

/-- The lines of the skeleton after its widgets. -/
def closingLines : List String :=
  ["  \"layout\": \x7b \"type\": \"single\" \x7d,", "  \"metadata\": \x7b\x7d", "\x7d"]

/-- The skeleton up to the place of the widget's id. -/
def skeletonFront (r : Request) : String :=
  lines (linesBefore r) ++ "      \"component\": \""

/-- The skeleton after that place. -/
def skeletonBack : String :=
  "\",\n" ++ lines (widgetLines ++ "  ]," :: closingLines)

theorem skeleton_eq (r : Request) :
    skeleton r = skeletonFront r ++ "<widget id>" ++ skeletonBack := by
  have hlines : skeleton r = lines (linesBefore r ++ "      \"component\": \"<widget id>\"," ::
      (widgetLines ++ "  ]," :: closingLines)) :=
    rfl
  have hline : "      \"component\": \"<widget id>\"," ++ "\n" =
      "      \"component\": \"" ++ ("<widget id>" ++ "\",\n") :=
    rfl
  rw [hlines, lines_append, lines_cons, hline]
  simp only [skeletonFront, skeletonBack, String.append_assoc]

/-- The skeleton with a widget's id, written as JSON has it, in its place. -/
def completed (r : Request) (id : String) : String :=
  skeletonFront r ++ String.ofList (id.toList.flatMap Json.escapedChar) ++ skeletonBack

/-- What the completed skeleton says. -/
def shown (r : Request) (id : String) : Document where
  sessionId := r.sessionId
  stage := r.stage
  oodm := .object []
  dependencyGraph := .ofFields [("nodes", .array []), ("edges", .array [])]
  widgets := [⟨"widget-1", id, 0, .object [], .object [], [], [], [], ⟨"", "", [], ""⟩⟩]
  layout := .ofFields [("type", .text "single")]
  metadata := .object []

section

open Json

/-- What `widgetLines` say. -/
def widgetFields : List (String × Json) :=
  [("position", .int 0), ("layout", .object []), ("config", .object []), ("inputs", .array []),
   ("outputs", .array []), ("reactiveBindings", .array []),
   ("metadata", .ofFields [("timing", .text ""), ("versatility", .text ""),
     ("bottleneck", .array []), ("description", .text "")])]

/-- What `closingLines` say. -/
def closingFields : List (String × Json) :=
  [("layout", .ofFields [("type", .text "single")]), ("metadata", .object [])]
/-- The fields of the widget stand inside three brackets, so that 124 of the 127 levels are left for
their values. -/
theorem readsParts_widgetLines (rest : List Char) :
    ReadsParts '\x7d' (field .strict (value .strict 124))
      ('\n' :: (lines widgetLines).toList ++ rest) widgetFields ('\n' :: rest) := by
  have hread : partsFrom '\x7d' (field .strict (value .strict 124))
      ('\n' :: (lines widgetLines).toList) ('\n' :: (lines widgetLines).toList) =
        some (widgetFields, ['\n']) := by
    simp only [toList_lines, widgetLines, List.flatMap_cons, List.flatMap_nil, String.reduceToList]
    decide +kernel
  exact .extend (local_field (local_value .strict 124) .strict) (by decide) hread rest

/-- The fields of the document stand inside one bracket. -/
theorem readsParts_closingLines :
    ReadsParts '\x7d' (field .strict (value .strict 126)) ('\n' :: (lines closingLines).toList)
      closingFields ['\n'] := by
  have hread : partsFrom '\x7d' (field .strict (value .strict 126))
      ('\n' :: (lines closingLines).toList) ('\n' :: (lines closingLines).toList) =
        some (closingFields, ['\n']) := by
    rw [toList_lines]
    decide +kernel
  have hlocal := local_field (local_value .strict 126) .strict
  simpa only [List.append_nil] using ReadsParts.extend hlocal (by decide) hread []

section

variable {depth : Nat} {label : List Char} {name : String}

/-- A field whose text is written after this label. -/
theorem field_labelled (hname : fieldName .strict ('\n' :: label) = some (name, [' ', '"']))
    (s : String) (rest : List Char) :
    field .strict (value .strict depth)
        ('\n' :: (label ++ (s.toList.flatMap escapedChar ++ '"' :: rest))) =
      some ((name, .text s), rest) := by
  have hfield := (closedBy_fieldName .strict).extend hname
    (s.toList.flatMap escapedChar ++ '"' :: rest)
  exact field_eq_some hfield (value_string rfl (string_escaped .strict s rest))

/-- Characters that need no escape can stand there as they are. -/
theorem field_plain (hname : fieldName .strict ('\n' :: label) = some (name, [' ', '"']))
    {s : String} (hplain : s.toList.flatMap escapedChar = s.toList) (rest : List Char) :
    field .strict (value .strict depth) ('\n' :: (label ++ (s.toList ++ '"' :: rest))) =
      some ((name, .text s), rest) := by
  simpa only [hplain] using field_labelled hname s rest

theorem field_closed {json : Json} (h : field .strict (value .strict depth) ('\n' :: label) =
    some ((name, json), [','])) (rest : List Char) :
    field .strict (value .strict depth) ('\n' :: (label ++ rest)) =
      some ((name, json), ',' :: rest) :=
  (local_field (local_value .strict depth) .strict).extend h rest

end

/-- What comes after the opening brace of the widget with an id in its place, up to a given end. -/
def widgetBody (id : String) (rest : List Char) : List Char :=
  '\n' :: ("      \"id\": \"widget-1\",".toList ++
    '\n' :: ("      \"component\": \"".toList ++ (id.toList.flatMap escapedChar ++
      '"' :: ',' :: '\n' :: ((lines widgetLines).toList ++ rest))))

/-- What the widget with an id in its place says. -/
def shownWidget (id : String) : Json :=
  .ofFields (("id", .text "widget-1") :: ("component", .text id) :: widgetFields)

theorem readsParts_widgetBody (id : String) (rest : List Char) :
    ReadsParts '\x7d' (field .strict (value .strict 124)) (widgetBody id rest)
      (("id", .text "widget-1") :: ("component", .text id) :: widgetFields) ('\n' :: rest) := by
  refine .cons ?_ (by decide) (field_closed (by decide +kernel) _)
  refine .cons ?_ (by decide) (field_labelled (by decide +kernel) id _)
  rw [← List.cons_append]
  exact readsParts_widgetLines rest

theorem value_shownWidget (id : String) (rest : List Char) :
    value .strict 125 ('\n' :: ("    \x7b".toList ++ widgetBody id rest)) =
      some (shownWidget id, '\n' :: rest) := by
  have hopen : ∀ cs, skipSpace ('\n' :: ("    \x7b".toList ++ cs)) = '\x7b' :: cs :=
    fun _ => rfl
  have hfirst : (skipSpace ('\n' :: "      \"id\": \"widget-1\",".toList)).head? = some '"' := by
    decide +kernel
  refine value_object (hopen _) (readsParts_widgetBody id rest) ?_ (by decide : '"' ≠ '\x7d')
  rw [widgetBody, ← List.cons_append]
  exact head?_skipSpace_append hfirst _

theorem field_widgets (id : String) (rest : List Char) :
    field .strict (value .strict 126)
        ('\n' :: ("  \"widgets\": [".toList ++
          '\n' :: ("    \x7b".toList ++ widgetBody id ("  ],".toList ++ rest)))) =
      some (("widgets", .array [shownWidget id]), ',' :: rest) := by
  have hname : fieldName .strict ('\n' :: "  \"widgets\": [".toList) =
      some ("widgets", [' ', '[']) := by
    decide +kernel
  have hopen : ∀ cs, skipSpace ([' ', '['] ++ cs) = '[' :: cs := fun _ => rfl
  have hfirst : ∀ cs, (skipSpace ('\n' :: ("    \x7b".toList ++ cs))).head? = some '\x7b' :=
    fun _ => rfl
  have hclose : ∀ cs, skipSpace ('\n' :: ("  ],".toList ++ cs)) = ']' :: ',' :: cs := fun _ => rfl
  have hitems := ReadsParts.last (value_shownWidget id ("  ],".toList ++ rest)) (hclose rest)
  have hlabel := (closedBy_fieldName .strict).extend hname
    ('\n' :: ("    \x7b".toList ++ widgetBody id ("  ],".toList ++ rest)))
  exact field_eq_some hlabel (value_array (hopen _) hitems (hfirst _) (by decide))

/-- What comes after the opening brace of the completed skeleton. -/
def completedBody (r : Request) (id : String) : List Char :=
  '\n' :: ("  \"sessionId\": \"".toList ++ (r.sessionId.toList ++
    '"' :: ',' :: '\n' :: ("  \"stage\": \"".toList ++ (r.stage.name.toList ++
    '"' :: ',' :: '\n' :: ("  \"oodm\": \x7b\x7d,".toList ++
    '\n' :: ("  \"dependencyGraph\": \x7b \"nodes\": [], \"edges\": [] \x7d,".toList ++
    '\n' :: ("  \"widgets\": [".toList ++ '\n' :: ("    \x7b".toList ++
      widgetBody id ("  ],".toList ++ '\n' :: (lines closingLines).toList)))))))))

theorem toList_completed (r : Request) (id : String) :
    (completed r id).toList = "\x7b".toList ++ completedBody r id := by
  have hid : (String.ofList (id.toList.flatMap escapedChar)).toList =
      id.toList.flatMap escapedChar :=
    String.toList_ofList
  have hend (s : String) : ("\",\n" ++ s).toList = '"' :: ',' :: '\n' :: s.toList := by
    rw [String.toList_append]
    rfl
  have hnil (rest : List Char) : (lines []).toList ++ rest = rest := rfl
  have hclosing : (lines ("  ]," :: closingLines)).toList =
      "  ],".toList ++ '\n' :: (lines closingLines).toList := by
    simpa only [List.append_nil] using toList_lines_cons_append "  ]," closingLines []
  rw [completed, skeletonFront, skeletonBack, String.toList_append, String.toList_append,
    String.toList_append, hid, hend, lines_append, String.toList_append, hclosing,
    List.append_assoc, List.append_assoc, linesBefore]
  simp only [toList_lines_cons_append, toList_quoted_append, hnil]
  rfl

theorem skipSpace_completed (r : Request) (id : String) :
    skipSpace (completed r id).toList = '\x7b' :: completedBody r id := by
  have hopen : ∀ cs, skipSpace ("\x7b".toList ++ cs) = '\x7b' :: cs := fun _ => rfl
  rw [toList_completed, hopen]

theorem head?_skipSpace_completedBody (r : Request) (id : String) :
    (skipSpace (completedBody r id)).head? = some '"' := by
  have hfirst : (skipSpace ('\n' :: "  \"sessionId\": \"".toList)).head? = some '"' := by
    decide +kernel
  rw [completedBody, ← List.cons_append]
  exact head?_skipSpace_append hfirst _

theorem fieldName_sessionId :
    fieldName .strict ('\n' :: "  \"sessionId\": \"".toList) = some ("sessionId", [' ', '"']) := by
  decide +kernel

theorem readsParts_completedBody {r : Request}
    (hplain : r.sessionId.toList.flatMap escapedChar = r.sessionId.toList) (id : String) :
    ReadsParts '\x7d' (field .strict (value .strict 126)) (completedBody r id)
      (("sessionId", .text r.sessionId) :: ("stage", .text r.stage.name) ::
        ("oodm", .object []) ::
        ("dependencyGraph", .ofFields [("nodes", .array []), ("edges", .array [])]) ::
        ("widgets", .array [shownWidget id]) :: closingFields) ['\n'] := by
  have hstage : r.stage.name.toList.flatMap escapedChar = r.stage.name.toList := by
    cases r.stage <;> decide
  refine .cons ?_ (by decide) (field_plain fieldName_sessionId hplain _)
  refine .cons ?_ (by decide) (field_plain (by decide +kernel) hstage _)
  refine .cons ?_ (by decide) (field_closed (by decide +kernel) _)
  refine .cons ?_ (by decide) (field_closed (by decide +kernel) _)
  refine .cons ?_ (by decide) (field_widgets id _)
  exact readsParts_closingLines

theorem ofText?_completed {r : Request}
    (hplain : r.sessionId.toList.flatMap escapedChar = r.sessionId.toList) (id : String) :
    ofText? (completed r id) = some (shown r id).toJson := by
  have hvalue := value_object (skipSpace_completed r id) (readsParts_completedBody hplain id)
    (head?_skipSpace_completedBody r id) (by decide)
  exact (ofChars?_of_value hvalue).trans (if_pos rfl)

/-- A quote in the name of a session ends the text that it stands in. -/
theorem ofText?_completed_of_quote {r : Request} {front : String} {c : Char} {back : List Char}
    (hsession : r.sessionId.toList = front.toList ++ '"' :: c :: back)
    (hplain : front.toList.flatMap escapedChar = front.toList) (hspace : isSpace c = false)
    (hclosing : c ≠ '\x7d') (hcomma : c ≠ ',') (id : String) : ofText? (completed r id) = none := by
  have hfirst := head?_skipSpace_completedBody r id
  have hopen := skipSpace_completed r id
  rw [completedBody, hsession, List.append_assoc, List.cons_append, List.cons_append]
    at hfirst hopen
  have hvalue : value .strict maxNesting (completed r id).toList = none :=
    value_object_eq_none hopen hfirst (by decide) (field_plain fieldName_sessionId hplain _) hspace
      hclosing hcomma
  simp only [ofText?, ofChars?, ofCharsNested?, hvalue]

end

theorem noNull_shown (r : Request) (id : String) : (shown r id).NoNull where
  oodm := nofun
  dependencyGraph := nofun
  layout := nofun
  metadata := nofun
  widgets w hw := by
    obtain rfl := List.mem_singleton.mp hw
    exact ⟨nofun, nofun⟩

theorem accept_shown {r : Request} {eligible : Option (List String)} {id : String}
    (hsession : isBlankText r.sessionId = false) (hblank : isBlankText id = false)
    (hid : ∀ ids, eligible = some ids → id ∈ ids) :
    Document.accept eligible (shown r id).toJson = .ok (shown r id) := by
  have hnull := noNull_shown r id
  refine hnull.accept_toJson (hnull.violations_toJson hsession (List.cons_ne_nil _ _) ?_)
  intro w hw
  obtain rfl := List.mem_singleton.mp hw
  exact Widget.hasComponent_toJson_iff.mpr ⟨hblank, hid⟩

/-- The shape that a prompt asks for, with any of the ids that it allows in its place, is a document
that is accepted for the request. -/
theorem accept_completed (r : Request) (catalogText : String) (ids : List String) (id : String)
    (hvalid : r.validate = .ok ())
    (hplain : ∀ c ∈ r.sessionId.toList, Json.escapedChar c = [c]) (hid : id ∈ ids)
    (hblank : isBlankText id = false) :
    widget r catalogText ids = introduction r catalogText ids ++
        (skeletonFront r ++ "<widget id>" ++ skeletonBack) ∧
      ∃ raw d, Json.ofText? (completed r id) = some raw ∧
        Document.accept (some ids) raw = .ok d ∧ d.sessionId = r.sessionId ∧ d.stage = r.stage := by
  have hsession : isBlankText r.sessionId = false := by
    unfold Request.validate at hvalid
    split at hvalid
    · cases hvalid
    · rename_i hsession
      simpa using hsession
  have hescaped : r.sessionId.toList.flatMap Json.escapedChar = r.sessionId.toList := by
    rw [List.flatMap_congr hplain]
    simp
  refine ⟨by rw [widget, skeleton_eq], (shown r id).toJson, shown r id,
    ofText?_completed hescaped id, accept_shown hsession hblank ?_, rfl, rfl⟩
  intro ids' hids
  exact Option.some.inj hids ▸ hid

/-- An id with a quote and a line break in it, which are escaped. -/
theorem accept_completed_escaped :
    let r := Request.new "s1" "moving house" .converge
    ∃ raw d, Json.ofText? (completed r "a \"re\"\ncap") = some raw ∧
      Document.accept (some ["recap", "a \"re\"\ncap"]) raw = .ok d ∧
      d.sessionId = "s1" ∧ d.stage = .converge := by
  intro r
  have hvalid : r.validate = .ok () := Outcome.toOption_eq_some_iff.mp (by decide)
  have hplain : ∀ c ∈ r.sessionId.toList, Json.escapedChar c = [c] := by
    simp [r, Request.new, Json.escapedChar]
  exact (accept_completed r "" ["recap", "a \"re\"\ncap"] "a \"re\"\ncap" hvalid hplain (by decide)
    (by decide)).2

/-- The session's name is not escaped, and the prompt shows what is no document at all. -/
theorem completed_quoted_session :
    let r := Request.new "a\"b" "moving house" .converge
    r.validate = .ok () ∧ "recap" ∈ ["recap"] ∧ isBlankText "recap" = false ∧
      Json.ofText? (completed r "recap") = none := by
  intro r
  have hvalid : r.validate = .ok () := Outcome.toOption_eq_some_iff.mp (by decide)
  have hsession : r.sessionId.toList = "a".toList ++ '"' :: 'b' :: [] := by
    simp [r, Request.new]
  exact ⟨hvalid, List.mem_singleton_self _, by decide, ofText?_completed_of_quote hsession
    (by decide) (by decide) (by decide) (by decide) "recap"⟩

end Prompt

end Stagewise
