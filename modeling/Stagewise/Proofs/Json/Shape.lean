import Stagewise.Json.Shape
import Stagewise.Proofs.Outcome
import Stagewise.Proofs.Record

/-! What typed reading accepts. A reader is described by the writer it inverts; a structure in an
object is read field by field, since with each name once the checks of the fields find nothing that
the fields themselves do not. -/

namespace Stagewise

namespace Decoder

variable {α : Type}

/-- Exactly what is written for a value is read as it. -/
def Inverts (decode : Decoder α) (encode : α → Json) : Prop :=
  ∀ json a, decode json = .ok a ↔ json = encode a

theorem Inverts.injective {decode : Decoder α} {encode : α → Json} (h : decode.Inverts encode)
    {a b : α} (he : encode a = encode b) : a = b := by
  have ha : decode (encode a) = .ok a := (h _ _).mpr rfl
  have hb : decode (encode a) = .ok b := (h _ _).mpr he
  exact Except.ok.inj (ha.symm.trans hb)

theorem raw_inverts : raw.Inverts fun value => value := by
  intro json a
  simp [raw]

theorem text_inverts : text.Inverts Json.text := by
  intro json a
  cases json <;> simp [text]

theorem natural_eq_ok_iff {bound : Nat} {wanted : String} {json : Json} {n : Nat} :
    natural bound wanted json = .ok n ↔ json = .int n ∧ n < bound := by
  cases json with
  | int i =>
    simp only [natural, Json.int.injEq]
    by_cases h : 0 ≤ i ∧ i < bound
    · rw [if_pos h, Except.ok.injEq]
      omega
    · rw [if_neg h]
      constructor
      · intro he
        cases he
      · omega
  | _ => simp [natural]

theorem word32_inverts : word32.Inverts fun w => .int w.toNat := by
  intro json w
  rw [word32, Outcome.map_eq_ok_iff]
  constructor
  · rintro ⟨n, hn, rfl⟩
    obtain ⟨rfl, hlt⟩ := natural_eq_ok_iff.mp hn
    simp only [UInt32.toNat_ofNat_of_lt' hlt]
  · rintro rfl
    exact ⟨w.toNat, natural_eq_ok_iff.mpr ⟨rfl, w.toNat_lt⟩, UInt32.ofNat_toNat⟩

theorem bool_inverts : bool.Inverts Json.bool := by
  intro json b
  cases json <;> simp [bool]

theorem natural64_inverts (wanted : String) :
    Inverts (fun json => (natural UInt64.size wanted json).map UInt64.ofNat)
      fun w => .int w.toNat := by
  intro json w
  rw [Outcome.map_eq_ok_iff]
  constructor
  · rintro ⟨n, hn, rfl⟩
    obtain ⟨rfl, hlt⟩ := natural_eq_ok_iff.mp hn
    simp only [UInt64.toNat_ofNat_of_lt' hlt]
  · rintro rfl
    exact ⟨w.toNat, natural_eq_ok_iff.mpr ⟨rfl, w.toNat_lt⟩, UInt64.ofNat_toNat⟩

theorem word64_inverts : word64.Inverts fun w => .int w.toNat :=
  natural64_inverts "u64"

theorem size64_inverts : size64.Inverts fun w => .int w.toNat :=
  natural64_inverts "usize"

theorem list_inverts {item : Decoder α} {encode : α → Json} (h : item.Inverts encode) :
    (list item).Inverts fun items => .array (items.map encode) := by
  intro json as
  cases json with
  | array items =>
    simp only [list, Json.array.injEq]
    induction items generalizing as with
    | nil => rw [Outcome.mapM_nil_eq_ok_iff, eq_comm (a := []), List.map_eq_nil_iff]
    | cons first rest ih =>
      rw [Outcome.mapM_cons_eq_ok_iff]
      constructor
      · rintro ⟨a, others, ha, hothers, rfl⟩
        rw [(h first a).mp ha, (ih others).mp hothers, List.map_cons]
      · intro he
        obtain ⟨a, others, rfl, ha, hothers⟩ := List.map_eq_cons_iff.mp he.symm
        exact ⟨a, others, (h _ _).mpr ha.symm, (ih others).mpr hothers.symm, rfl⟩
  | _ => simp [list]

theorem rawList_inverts : (list raw).Inverts Json.array := by
  have h := list_inverts raw_inverts
  simpa using h

end Decoder

namespace Fields

variable {α β : Type} {r : Record Json}

theorem ofRecordField_required {name : String} {decode : Decoder α} {a : α} :
    ofRecordField (.required name decode) r = .ok a ↔
      ∃ json, r.get? name = some json ∧ decode json = .ok a := by
  unfold ofRecordField
  cases h : r.get? name <;> simp [Field.required, h]

theorem ofRecordField_inverts {name : String} {decode : Decoder α} {encode : α → Json}
    (h : decode.Inverts encode) {a : α} :
    ofRecordField (.required name decode) r = .ok a ↔ r.get? name = some (encode a) := by
  rw [ofRecordField_required]
  constructor
  · rintro ⟨json, hget, ha⟩
    rw [hget, (h json a).mp ha]
  · intro hget
    exact ⟨encode a, hget, (h _ a).mpr rfl⟩

theorem ofRecord_and {fields : Fields (α → β)} {field : Field α} {b : β} :
    (fields.and field).ofRecord r = .ok b ↔
      ∃ build, fields.ofRecord r = .ok build ∧
        ∃ a, ofRecordField field r = .ok a ∧ build a = b := by
  simp only [and, Outcome.bind_eq_ok_iff, Except.ok.injEq]

theorem ofRecord_of_decoder {fields : Fields α} {structureName : String} {a : α}
    (h : fields.decoder structureName (.object r) = .ok a) : fields.ofRecord r = .ok a := by
  obtain ⟨-, -, ha⟩ := Outcome.bind_eq_ok_iff.mp h
  exact ha

/-- In an object of distinct names the checks find nothing that reading does not. -/
def Sound (fields : Fields α) : Prop :=
  ∀ (r : Record Json) a, r.Distinct → fields.ofRecord r = .ok a →
    ∀ entry ∈ r, fields.check entry.1 entry.2 = .ok ()

theorem done_sound (a : α) : (done a).Sound :=
  fun _ _ _ _ _ _ => rfl

theorem Sound.and {fields : Fields (α → β)} (h : fields.Sound) (field : Field α) :
    (fields.and field).Sound := by
  intro r b hr hb entry hentry
  obtain ⟨build, hbuild, a, ha, -⟩ := ofRecord_and.mp hb
  simp only [Fields.and]
  split
  · rename_i hname
    have hget : r.get? field.name = some entry.2 := hname ▸ hr.get?_of_mem hentry
    simp only [ofRecordField, hget] at ha
    rw [ha]
    rfl
  · exact h r build hr hbuild entry hentry

theorem Sound.decoder_object {fields : Fields α} (h : fields.Sound) (hr : r.Distinct)
    {structureName : String} {a : α} :
    fields.decoder structureName (.object r) = .ok a ↔ fields.ofRecord r = .ok a := by
  simp only [decoder, Outcome.bind_eq_ok_iff]
  constructor
  · rintro ⟨-, -, ha⟩
    exact ha
  · intro ha
    exact ⟨(), Outcome.forM_eq_ok_iff.mpr (h r a hr ha), ha⟩

theorem ofItemsField_required {name : String} {decode : Decoder α} {tooShort : ShapeError}
    {items rest : List Json} {a : α} :
    ofItemsField (.required name decode) tooShort items = .ok (a, rest) ↔
      ∃ json, items = json :: rest ∧ decode json = .ok a := by
  cases items with
  | nil => simp [ofItemsField, Field.required]
  | cons json others =>
    simp only [ofItemsField, Field.required, Outcome.map_eq_ok_iff, Prod.mk.injEq, List.cons.injEq]
    constructor
    · rintro ⟨a', ha, rfl, rfl⟩
      exact ⟨json, ⟨rfl, rfl⟩, ha⟩
    · rintro ⟨json', ⟨rfl, rfl⟩, ha⟩
      exact ⟨a, ha, rfl, rfl⟩

theorem ofItems_and {fields : Fields (α → β)} {field : Field α} {tooShort : Nat → ShapeError}
    {items rest : List Json} {b : β} :
    (fields.and field).ofItems tooShort items = .ok (b, rest) ↔
      ∃ build others, fields.ofItems tooShort items = .ok (build, others) ∧
        ∃ a, ofItemsField field (tooShort fields.names.length) others = .ok (a, rest) ∧
          build a = b := by
  simp only [and, Outcome.bind_eq_ok_iff, Except.ok.injEq, Prod.mk.injEq, Prod.exists]
  constructor
  · rintro ⟨build, others, hbuild, a, rest', ha, rfl, rfl⟩
    exact ⟨build, others, hbuild, a, ha, rfl⟩
  · rintro ⟨build, others, hbuild, a, ha, rfl⟩
    exact ⟨build, others, hbuild, a, rest, ha, rfl, rfl⟩

theorem decoder_array {fields : Fields α} {structureName : String} {items : List Json} {a : α} :
    fields.decoder structureName (.array items) = .ok a ↔
      fields.ofItems (fun n => .tooShort n structureName fields.names.length) items =
        .ok (a, []) := by
  simp only [decoder, Outcome.bind_eq_ok_iff, Prod.exists]
  constructor
  · rintro ⟨a', rest, hitems, h⟩
    split at h
    · rename_i hrest
      obtain rfl := List.isEmpty_iff.mp hrest
      obtain rfl := Except.ok.inj h
      exact hitems
    · cases h
  · intro hitems
    exact ⟨a, [], hitems, rfl⟩

end Fields

end Stagewise
