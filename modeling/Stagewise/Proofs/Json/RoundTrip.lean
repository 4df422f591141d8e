import Stagewise.Proofs.Json.Shape

/-! Typed reading of what was written for a value. A structure comes back when each of its fields
does, and the names of an object say which value is for which field. -/

namespace Stagewise

section

variable {entries : List (String × Option Json)}

/-- The fields that are there, under their names. -/
def Json.present (entries : List (String × Option Json)) : List (String × Json) :=
  entries.filterMap fun entry => entry.2.map fun value => (entry.1, value)

theorem Json.names_present_sublist :
    ((present entries).map Prod.fst).Sublist (entries.map Prod.fst) := by
  induction entries with
  | nil => exact .slnil
  | cons entry rest ih =>
    obtain ⟨name, value⟩ := entry
    cases value with
    | none => exact ih.cons name
    | some value => exact ih.cons_cons name

theorem Json.get?_present (h : (entries.map Prod.fst).Nodup) (name : String) :
    Record.get? (present entries) name = (Record.get? entries name).join := by
  induction entries with
  | nil => rfl
  | cons entry rest ih =>
    obtain ⟨hfirst, hrest⟩ := List.nodup_cons.mp h
    have hget := ih hrest
    obtain ⟨key, value⟩ := entry
    by_cases hname : name = key
    · cases value with
      | none =>
        have hnone : Record.get? rest name = none := Record.get?_eq_none_iff.mpr (hname ▸ hfirst)
        rw [hnone] at hget
        simpa [present, Record.get?, hname] using hget
      | some value => simp [present, Record.get?, hname]
    · cases value <;> simpa [present, Record.get?, hname] using hget

theorem Json.field?_ofPresent (h : (entries.map Prod.fst).Nodup) (name : String) :
    (ofPresent entries).field? name = (Record.get? entries name).join := by
  rw [← get?_present h name]
  exact Record.get?_ofList (h.sublist names_present_sublist) name

end

theorem Json.field?_ofFields {fields : List (String × Json)} (h : (fields.map Prod.fst).Nodup)
    (name : String) : (ofFields fields).field? name = Record.get? fields name :=
  Record.get?_ofList h name

namespace Decoder

variable {α : Type}

/-- What is written for a value is read as it. -/
def Recovers (decode : Decoder α) (encode : α → Json) : Prop :=
  ∀ a, decode (encode a) = .ok a

theorem Inverts.recovers {decode : Decoder α} {encode : α → Json} (h : decode.Inverts encode) :
    decode.Recovers encode :=
  fun a => (h _ a).mpr rfl

theorem list_recovers {item : Decoder α} {encode : α → Json} (h : item.Recovers encode) :
    (list item).Recovers fun items => .array (items.map encode) := by
  intro items
  induction items with
  | nil => rfl
  | cons first rest ih => exact Outcome.mapM_cons_eq_ok_iff.mpr ⟨first, rest, h first, ih, rfl⟩

theorem option_some {decode : Decoder α} {json : Json} {a : α} (h : decode json = .ok a)
    (hnull : json ≠ .null) : option decode json = .ok (some a) := by
  cases json with
  | null => exact absurd rfl hnull
  | _ => exact Outcome.map_eq_ok_iff.mpr ⟨a, h, rfl⟩

/-- What is written for a value of the class is read as it and, since nothing outside the class is
ever read, whatever was read is read again and then written as before. -/
structure RoundTrips (decode : Decoder α) (encode : α → Json) (inClass : α → Prop) : Prop where
  recovers_iff : ∀ a, decode (encode a) = .ok a ↔ inClass a
  inClass_of_read : ∀ json a, decode json = .ok a → inClass a
  again : ∀ json a, decode json = .ok a →
    decode (encode a) = .ok a ∧ (decode (encode a)).map encode = .ok (encode a)

theorem roundTrips {decode : Decoder α} {encode : α → Json} {inClass : α → Prop}
    (hwritten : ∀ a, inClass a → decode (encode a) = .ok a)
    (hread : ∀ json a, decode json = .ok a → inClass a) : decode.RoundTrips encode inClass where
  recovers_iff a := ⟨hread _ a, hwritten a⟩
  inClass_of_read := hread
  again json a h := by
    have ha := hwritten a (hread json a h)
    exact ⟨ha, by rw [ha, Except.map]⟩

theorem Recovers.roundTrips {decode : Decoder α} {encode : α → Json} (h : decode.Recovers encode) :
    decode.RoundTrips encode fun _ => True :=
  Decoder.roundTrips (fun a _ => h a) fun _ _ _ => trivial

end Decoder

namespace Fields

variable {α β : Type}

/-- From an object that gives these values for its names the fields make the value. -/
structure Makes (fields : Fields α) (given : String → Option Json) (a : α) : Prop where
  sound : fields.Sound
  value : ∀ r : Record Json, (∀ name, r.get? name = given name) → fields.ofRecord r = .ok a

section

variable {given : String → Option Json}

theorem makes_done (a : α) : (done a).Makes given a where
  sound := done_sound a
  value _ _ := rfl

theorem Makes.and {fields : Fields (α → β)} {build : α → β} (h : fields.Makes given build)
    {field : Field α} {a : α}
    (hfield : ∀ r : Record Json, r.get? field.name = given field.name →
      ofRecordField field r = .ok a) : (fields.and field).Makes given (build a) where
  sound := h.sound.and field
  value r hr := ofRecord_and.mpr ⟨build, h.value r hr, a, hfield r (hr field.name), rfl⟩

theorem Makes.required {fields : Fields (α → β)} {build : α → β} (h : fields.Makes given build)
    {name : String} {decode : Decoder α} {a : α} {json : Json} (hget : given name = some json)
    (hread : decode json = .ok a) :
    (fields.and (.required name decode)).Makes given (build a) :=
  h.and fun _ hr => ofRecordField_required.mpr ⟨json, hr.trans hget, hread⟩

theorem Makes.withDefault {fields : Fields (α → β)} {build : α → β} (h : fields.Makes given build)
    {name : String} {decode : Decoder α} {default a : α} {json : Json}
    (hget : given name = some json) (hread : decode json = .ok a) :
    (fields.and (.withDefault name decode default)).Makes given (build a) := by
  refine h.and fun r hr => ?_
  have hname : r.get? name = some json := hr.trans hget
  simp only [ofRecordField, Field.withDefault, hname, hread]

theorem Makes.optional {fields : Fields (Option α → β)} {build : Option α → β}
    (h : fields.Makes given build) {name : String} {decode : Decoder α} {encode : α → Json}
    {a? : Option α} (hget : given name = a?.map encode)
    (hread : ∀ a, a? = some a → decode (encode a) = .ok a ∧ encode a ≠ .null) :
    (fields.and (.optional name decode)).Makes given (build a?) := by
  refine h.and fun r hr => ?_
  have hname : r.get? name = given name := hr
  rw [hget] at hname
  cases a? with
  | none =>
    rw [Option.map_none] at hname
    simp only [ofRecordField, Field.optional, hname]
  | some a =>
    obtain ⟨ha, hnull⟩ := hread a rfl
    rw [Option.map_some] at hname
    simp only [ofRecordField, Field.optional, hname, Decoder.option_some ha hnull]

theorem Makes.optionalText {fields : Fields (Option String → β)} {build : Option String → β}
    (h : fields.Makes given build) {name : String} {text? : Option String}
    (hget : given name = text?.map Json.text) :
    (fields.and (.optional name Decoder.text)).Makes given (build text?) :=
  h.optional hget fun s _ => ⟨Decoder.text_inverts.recovers s, by simp⟩

theorem Makes.optionalRaw {fields : Fields (Option Json → β)} {build : Option Json → β}
    (h : fields.Makes given build) {name : String} {value? : Option Json}
    (hget : given name = value?) (hnull : value? ≠ some .null) :
    (fields.and (.optional name Decoder.raw)).Makes given (build value?) := by
  have hmap : given name = value?.map fun value => value := by
    rw [hget, Option.map_id']
  refine h.optional hmap fun value hvalue => ⟨rfl, ?_⟩
  rintro rfl
  exact hnull hvalue

end

theorem Makes.decoder_ofFields {fields : Fields α} {a : α} {entries : List (String × Json)}
    {structureName : String} (h : fields.Makes (Record.get? entries) a)
    (hnames : (entries.map Prod.fst).Nodup) :
    fields.decoder structureName (.ofFields entries) = .ok a :=
  (h.sound.decoder_object (Record.distinct_ofList entries)).mpr
    (h.value _ (Record.get?_ofList hnames))

theorem Makes.decoder_ofPresent {fields : Fields α} {a : α}
    {entries : List (String × Option Json)} {structureName : String}
    (h : fields.Makes (fun name => (Record.get? entries name).join) a)
    (hnames : (entries.map Prod.fst).Nodup) :
    fields.decoder structureName (.ofPresent entries) = .ok a :=
  (h.sound.decoder_object (Record.distinct_ofList _)).mpr
    (h.value _ (Json.field?_ofPresent hnames))

end Fields

/-- Whatever the field is read as, and what stands for it when it is left out, has the property. -/
structure Field.Ensures {α : Type} (field : Field α) (P : α → Prop) : Prop where
  read : ∀ json a, field.decode json = .ok a → P a
  absent : ∀ a, field.absent = some a → P a

theorem Field.ensures_true {α : Type} (field : Field α) : field.Ensures fun _ => True where
  read _ _ _ := trivial
  absent _ _ := trivial

theorem Field.optional_ensures {α : Type} {name : String} {decode : Decoder α}
    {P : Option α → Prop} (hnone : P none)
    (hsome : ∀ json a, json ≠ .null → decode json = .ok a → P (some a)) :
    (Field.optional name decode).Ensures P where
  read json a h := by
    cases json with
    | null => exact Except.ok.inj h ▸ hnone
    | _ =>
      obtain ⟨b, hb, rfl⟩ := Outcome.map_eq_ok_iff.mp h
      exact hsome _ b (by simp) hb
  absent a h := Option.some.inj h ▸ hnone

theorem Field.optionalRaw_ensures (name : String) :
    (Field.optional name Decoder.raw).Ensures fun value? => value? ≠ some .null := by
  refine Field.optional_ensures (by simp) fun json value hne hread => ?_
  obtain rfl := Except.ok.inj hread
  simpa using hne

namespace Fields

variable {α β : Type}

theorem ofRecordField_ensures {field : Field α} {P : α → Prop} (h : field.Ensures P)
    {r : Record Json} {a : α} (ha : ofRecordField field r = .ok a) : P a := by
  unfold ofRecordField at ha
  split at ha
  · exact h.read _ a ha
  · split at ha
    · rename_i value habsent
      exact h.absent a (by rw [habsent, Except.ok.inj ha])
    · cases ha

theorem ofItemsField_ensures {field : Field α} {P : α → Prop} (h : field.Ensures P)
    {tooShort : ShapeError} {items rest : List Json} {a : α}
    (ha : ofItemsField field tooShort items = .ok (a, rest)) : P a := by
  unfold ofItemsField at ha
  split at ha
  · obtain ⟨b, hb, he⟩ := Outcome.map_eq_ok_iff.mp ha
    obtain ⟨rfl, -⟩ := Prod.mk.inj he
    exact h.read _ b hb
  · split at ha
    · rename_i value habsent
      obtain ⟨rfl, -⟩ := Prod.mk.inj (Except.ok.inj ha)
      exact h.absent value habsent
    · cases ha

/-- Whatever the fields are read as, from an object or from an array, has the property. -/
structure Ensures (fields : Fields α) (P : α → Prop) : Prop where
  ofRecord : ∀ r a, fields.ofRecord r = .ok a → P a
  ofItems : ∀ tooShort items a rest, fields.ofItems tooShort items = .ok (a, rest) → P a

theorem done_ensures {P : α → Prop} {a : α} (h : P a) : (done a).Ensures P where
  ofRecord _ _ ha := Except.ok.inj ha ▸ h
  ofItems _ _ _ _ ha := (Prod.mk.inj (Except.ok.inj ha)).1 ▸ h

theorem Ensures.and {fields : Fields (α → β)} {field : Field α} {P : α → Prop} {Q : β → Prop}
    (h : fields.Ensures fun build => ∀ a, P a → Q (build a)) (hfield : field.Ensures P) :
    (fields.and field).Ensures Q where
  ofRecord r b hb := by
    obtain ⟨build, hbuild, a, ha, rfl⟩ := ofRecord_and.mp hb
    exact h.ofRecord r build hbuild a (ofRecordField_ensures hfield ha)
  ofItems tooShort items b rest hb := by
    obtain ⟨build, others, hbuild, a, ha, rfl⟩ := ofItems_and.mp hb
    exact h.ofItems tooShort items build others hbuild a (ofItemsField_ensures hfield ha)

theorem Ensures.decoder {fields : Fields α} {P : α → Prop} (h : fields.Ensures P)
    {structureName : String} {json : Json} {a : α}
    (ha : fields.decoder structureName json = .ok a) : P a := by
  cases json with
  | object r => exact h.ofRecord r a (ofRecord_of_decoder ha)
  | array items => exact h.ofItems _ items a [] (decoder_array.mp ha)
  | _ => cases ha

end Fields

end Stagewise
