import Stagewise.Json.Reader
import Stagewise.Proofs.Record

/-! Values in which no object has a name twice. Reading a text gives only such values, whatever the
text repeats. -/

namespace Stagewise

namespace Json

/-- Every object in the value has each name once. -/
inductive Distinct : Json → Prop
  | null : Distinct .null
  | bool (b : Bool) : Distinct (.bool b)
  | int (i : Int) : Distinct (.int i)
  | float (x : Float) : Distinct (.float x)
  | text (s : String) : Distinct (.text s)
  | array {items : List Json} (h : ∀ item ∈ items, item.Distinct) : Distinct (.array items)
  | object {fields : List (String × Json)} (names : Record.Distinct fields)
      (h : ∀ field ∈ fields, field.2.Distinct) : Distinct (.object fields)

theorem Distinct.field {json value : Json} {name : String} (h : json.Distinct)
    (hv : json.field? name = some value) : value.Distinct := by
  cases h with
  | object names h => exact h _ (Record.mem_of_get? hv)
  | _ => cases hv

theorem Distinct.items {items : List Json} (h : (Json.array items).Distinct) :
    ∀ item ∈ items, item.Distinct := by
  cases h with
  | array h => exact h

theorem distinct_object_iff {fields : List (String × Json)} :
    (Json.object fields).Distinct ↔
      Record.Distinct fields ∧ ∀ field ∈ fields, field.2.Distinct := by
  constructor
  · rintro ⟨⟩
    exact ⟨‹_›, ‹_›⟩
  · rintro ⟨hnames, h⟩
    exact .object hnames h

theorem distinct_ofFields {fields : List (String × Json)} (h : ∀ field ∈ fields, field.2.Distinct) :
    (ofFields fields).Distinct :=
  .object (Record.distinct_ofList fields) fun field hf => h field (Record.mem_of_mem_ofList hf)

/-- Whatever the reader reads has the property. -/
def Reads {α : Type} (P : α → Prop) (reader : Reader α) : Prop :=
  ∀ cs a rest, reader cs = some (a, rest) → P a

theorem itemsFrom_reads {P : Json → Prop} {item : Reader Json} (h : Reads P item)
    (rounds : List Char) : Reads (fun items => ∀ item ∈ items, P item) (itemsFrom item rounds) := by
  intro cs items rest hr
  fun_induction itemsFrom item rounds cs generalizing items rest with
  | case1 cs => cases hr
  | case2 rounds cs hitem => cases hr
  | case3 _ rounds cs value rest' hitem others hclose =>
    obtain ⟨rfl, rfl⟩ := Prod.mk.inj (Option.some.inj hr)
    exact List.forall_mem_singleton.mpr (h _ _ _ hitem)
  | case4 _ rounds cs value rest' hitem others hcomma ih =>
    obtain ⟨⟨values, left⟩, hread, he⟩ := Option.map_eq_some_iff.mp hr
    obtain ⟨rfl, rfl⟩ := Prod.mk.inj he
    exact List.forall_mem_cons.mpr ⟨h _ _ _ hitem, ih _ _ hread⟩
  | case5 => cases hr

theorem items_reads {P : Json → Prop} {item : Reader Json} (h : Reads P item) :
    Reads (fun items => ∀ item ∈ items, P item) (items item) := by
  intro cs values rest hr
  unfold items at hr
  split at hr
  · obtain ⟨rfl, rfl⟩ := Prod.mk.inj (Option.some.inj hr)
    exact List.forall_mem_nil _
  · exact itemsFrom_reads h _ _ _ _ hr

theorem fieldsFrom_reads {P : String × Json → Prop} {entry : Reader (String × Json)}
    (h : Reads P entry) (rounds : List Char) :
    Reads (fun fields => ∀ field ∈ fields, P field) (fieldsFrom entry rounds) := by
  intro cs fields rest hr
  fun_induction fieldsFrom entry rounds cs generalizing fields rest with
  | case1 cs => cases hr
  | case2 rounds cs hentry => cases hr
  | case3 _ rounds cs value rest' hentry others hclose =>
    obtain ⟨rfl, rfl⟩ := Prod.mk.inj (Option.some.inj hr)
    exact List.forall_mem_singleton.mpr (h _ _ _ hentry)
  | case4 _ rounds cs value rest' hentry others hcomma ih =>
    obtain ⟨⟨values, left⟩, hread, he⟩ := Option.map_eq_some_iff.mp hr
    obtain ⟨rfl, rfl⟩ := Prod.mk.inj he
    exact List.forall_mem_cons.mpr ⟨h _ _ _ hentry, ih _ _ hread⟩
  | case5 => cases hr

theorem fields_reads {P : String × Json → Prop} {entry : Reader (String × Json)}
    (h : Reads P entry) : Reads (fun fields => ∀ field ∈ fields, P field) (fields entry) := by
  intro cs values rest hr
  unfold fields at hr
  split at hr
  · obtain ⟨rfl, rfl⟩ := Prod.mk.inj (Option.some.inj hr)
    exact List.forall_mem_nil _
  · exact fieldsFrom_reads h _ _ _ _ hr

theorem field_reads {P : Json → Prop} {item : Reader Json} (h : Reads P item) (rigour : Rigour) :
    Reads (fun field => P field.2) (field rigour item) := by
  intro cs entry rest hr
  simp only [field, Option.bind_eq_bind, Option.bind_eq_some_iff] at hr
  obtain ⟨⟨name, others⟩, hname, ⟨value, left⟩, hvalue, he⟩ := hr
  obtain ⟨rfl, rfl⟩ := Prod.mk.inj (Option.some.inj he)
  exact h _ _ _ hvalue

theorem distinct_of_value? {n : Numeral} {json : Json} (h : n.value? = some json) :
    json.Distinct := by
  simp only [Numeral.value?] at h
  split at h
  · split at h
    · exact Option.some.inj h ▸ .int _
    · split at h
      · exact Option.some.inj h ▸ .int _
      · exact Option.some.inj h ▸ .float _
  · obtain ⟨x, hx, rfl⟩ := Option.map_eq_some_iff.mp h
    exact .float _

theorem number_distinct (rigour : Rigour) : Reads Distinct (number rigour) := by
  intro cs json rest hr
  unfold number at hr
  split at hr
  all_goals
    obtain ⟨⟨n, others⟩, -, h⟩ := Option.bind_eq_some_iff.mp hr
    dsimp only at h
    split at h
    · rename_i value hvalue
      obtain ⟨rfl, rfl⟩ := Prod.mk.inj (Option.some.inj h)
      exact distinct_of_value? hvalue
    · obtain ⟨rfl, rfl⟩ := Prod.mk.inj (Option.some.inj h)
      exact .null
    · cases h

theorem word_reads {P : Json → Prop} {value : Json} (h : P value) (letters : List Char) :
    Reads P (word letters value) := by
  intro cs json rest hr
  unfold word at hr
  split at hr
  · obtain ⟨rfl, rfl⟩ := Prod.mk.inj (Option.some.inj hr)
    exact h
  · cases hr

theorem valueOver_distinct {nested : Option (Reader Json)}
    (h : ∀ reader, nested = some reader → Reads Distinct reader) (rigour : Rigour) :
    Reads Distinct (valueOver rigour nested) := by
  intro cs json rest hr
  unfold valueOver at hr
  split at hr
  · cases hr
  · split at hr
    · exact word_reads .null _ _ _ _ hr
    split at hr
    · exact word_reads (.bool true) _ _ _ _ hr
    split at hr
    · exact word_reads (.bool false) _ _ _ _ hr
    split at hr
    · obtain ⟨⟨s, left⟩, hs, he⟩ := Option.map_eq_some_iff.mp hr
      obtain ⟨rfl, rfl⟩ := Prod.mk.inj he
      exact .text s
    split at hr
    · simp only [Option.bind_eq_bind, Option.bind_eq_some_iff] at hr
      obtain ⟨reader, hreader, ⟨values, left⟩, hvalues, he⟩ := hr
      obtain ⟨rfl, rfl⟩ := Prod.mk.inj (Option.some.inj he)
      exact .array (items_reads (h reader hreader) _ _ _ hvalues)
    split at hr
    · simp only [Option.bind_eq_bind, Option.bind_eq_some_iff] at hr
      obtain ⟨reader, hreader, ⟨entries, left⟩, hentries, he⟩ := hr
      obtain ⟨rfl, rfl⟩ := Prod.mk.inj (Option.some.inj he)
      exact distinct_ofFields
        (fields_reads (field_reads (h reader hreader) rigour) _ _ _ hentries)
    · exact number_distinct rigour _ _ _ hr

theorem value_distinct (rigour : Rigour) (depth : Nat) : Reads Distinct (value rigour depth) := by
  induction depth with
  | zero =>
    intro cs json rest hr
    exact valueOver_distinct (by simp) rigour cs json rest hr
  | succ depth ih =>
    intro cs json rest hr
    refine valueOver_distinct ?_ rigour cs json rest hr
    rintro reader ⟨⟩
    exact ih

theorem distinct_of_ofText? {s : String} {json : Json} (h : ofText? s = some json) :
    json.Distinct := by
  unfold ofText? ofChars? ofCharsNested? at h
  split at h
  · rename_i value rest hr
    split at h
    · obtain rfl := Option.some.inj h
      exact value_distinct _ _ _ _ _ hr
    · cases h
  · cases h

end Json

end Stagewise
