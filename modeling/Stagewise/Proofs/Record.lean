import Stagewise.Record

/-! The names of a record. Setting one adds it, loses none and repeats none, so a record made of a
list has exactly the names of the list, each once. Taking one away leaves the others as they are. -/

namespace Stagewise

namespace Record

variable {α : Type}

theorem get?_eq_none_iff {r : Record α} {name : String} :
    r.get? name = none ↔ name ∉ r.map Prod.fst := by
  induction r with
  | nil => simp
  | cons entry rest ih =>
    by_cases h : name = entry.1
    · simp [get?, h]
    · simp [get?, h, ih]

theorem isSome_get?_iff {r : Record α} {name : String} :
    (r.get? name).isSome = true ↔ name ∈ r.map Prod.fst := by
  have h : r.get? name = none ↔ name ∉ r.map Prod.fst := get?_eq_none_iff
  cases hv : r.get? name with
  | none => simpa using h.mp hv
  | some v =>
    have hn : ¬name ∉ r.map Prod.fst := fun hm => by simp [h.mpr hm] at hv
    simpa using hn

theorem mem_names_put {r : Record α} {name other : String} {value : α} :
    other ∈ (r.put name value).map Prod.fst ↔ other = name ∨ other ∈ r.map Prod.fst := by
  rw [← isSome_get?_iff, ← isSome_get?_iff]
  by_cases h : other = name
  · subst h
    simp
  · simp [get?_put_of_ne r value h, h]

theorem mem_names_foldl_put (entries : List (String × α)) (r : Record α) (name : String) :
    name ∈ (entries.foldl (fun r entry => r.put entry.1 entry.2) r).map Prod.fst ↔
      name ∈ r.map Prod.fst ∨ name ∈ entries.map Prod.fst := by
  induction entries generalizing r with
  | nil => simp
  | cons entry rest ih =>
    rw [List.foldl_cons, ih, mem_names_put, List.map_cons, List.mem_cons]
    constructor
    · rintro ((h | h) | h)
      · exact .inr (.inl h)
      · exact .inl h
      · exact .inr (.inr h)
    · rintro (h | h | h)
      · exact .inl (.inr h)
      · exact .inl (.inl h)
      · exact .inr h

theorem mem_names_ofList {entries : List (String × α)} {name : String} :
    name ∈ (ofList entries).map Prod.fst ↔ name ∈ entries.map Prod.fst := by
  simp [ofList, mem_names_foldl_put]

theorem mem_of_mem_replace {r : Record α} {name : String} {value : α} {entry : String × α}
    (h : entry ∈ r.replace name value) : entry = (name, value) ∨ entry ∈ r := by
  induction r with
  | nil => cases h
  | cons first rest ih =>
    by_cases hname : name = first.1
    · simp only [replace, if_pos hname, List.mem_cons] at h
      exact h.imp_right (.tail _)
    · simp only [replace, if_neg hname, List.mem_cons] at h
      rcases h with rfl | h
      · exact .inr List.mem_cons_self
      · exact (ih h).imp_right (.tail _)

theorem mem_insertNew {r : Record α} {name : String} {value : α} {entry : String × α} :
    entry ∈ r.insertNew name value ↔ entry = (name, value) ∨ entry ∈ r := by
  induction r with
  | nil => simp [insertNew]
  | cons first rest ih =>
    by_cases h : name < first.1
    · simp [insertNew, h]
    · simp only [insertNew, if_neg h, List.mem_cons, ih]
      exact or_left_comm

theorem mem_of_mem_put {r : Record α} {name : String} {value : α} {entry : String × α}
    (h : entry ∈ r.put name value) : entry = (name, value) ∨ entry ∈ r := by
  unfold put at h
  split at h
  · exact mem_of_mem_replace h
  · exact mem_insertNew.mp h

theorem mem_of_mem_ofList {entries : List (String × α)} {entry : String × α}
    (h : entry ∈ ofList entries) : entry ∈ entries := by
  suffices hall : ∀ r : Record α,
      entry ∈ entries.foldl (fun r entry => r.put entry.1 entry.2) r → entry ∈ r ∨ entry ∈ entries by
    simpa using hall [] h
  clear h
  induction entries with
  | nil => exact fun r h => .inl h
  | cons first rest ih =>
    intro r h
    rcases ih _ h with h | h
    · rcases mem_of_mem_put h with rfl | h
      · exact .inr List.mem_cons_self
      · exact .inl h
    · exact .inr (.tail _ h)

theorem mem_of_get? {r : Record α} {name : String} {value : α} (h : r.get? name = some value) :
    (name, value) ∈ r := by
  induction r with
  | nil => cases h
  | cons entry rest ih =>
    by_cases hname : name = entry.1
    · simp only [get?, if_pos hname, Option.some.injEq] at h
      exact List.mem_cons.mpr (.inl (Prod.ext hname h.symm))
    · simp only [get?, if_neg hname] at h
      exact .tail _ (ih h)

/-- Each name once. -/
def Distinct (r : Record α) : Prop :=
  (r.map Prod.fst).Nodup

theorem Distinct.get?_of_mem {r : Record α} (h : r.Distinct) {name : String} {value : α}
    (hm : (name, value) ∈ r) : r.get? name = some value := by
  induction r with
  | nil => cases hm
  | cons entry rest ih =>
    obtain ⟨hfirst, hrest⟩ := List.nodup_cons.mp h
    rcases List.mem_cons.mp hm with rfl | hm
    · simp [get?]
    · have hne : name ≠ entry.1 := fun he =>
        hfirst (he ▸ List.mem_map_of_mem (f := Prod.fst) hm)
      simp [get?, hne, ih hrest hm]

theorem Distinct.insertNew {r : Record α} (h : r.Distinct) {name : String} (value : α)
    (hname : name ∉ r.map Prod.fst) : (r.insertNew name value).Distinct := by
  induction r with
  | nil => simp [Record.insertNew, Distinct]
  | cons entry rest ih =>
    obtain ⟨hfirst, hrest⟩ := List.nodup_cons.mp h
    by_cases hlt : name < entry.1
    · simp only [Record.insertNew, if_pos hlt]
      exact List.nodup_cons.mpr ⟨hname, h⟩
    · simp only [Record.insertNew, if_neg hlt]
      refine List.nodup_cons.mpr ⟨fun hm => ?_, ih hrest fun hm => hname (.tail _ hm)⟩
      obtain ⟨other, hother, he⟩ := List.mem_map.mp hm
      rcases mem_insertNew.mp hother with rfl | hother
      · exact hname (List.mem_cons.mpr (.inl he))
      · exact hfirst (he ▸ List.mem_map_of_mem (f := Prod.fst) hother)

theorem Distinct.put {r : Record α} (h : r.Distinct) (name : String) (value : α) :
    (r.put name value).Distinct := by
  unfold Record.put
  split
  · rw [Distinct, map_fst_replace]
    exact h
  · rename_i hnew
    exact h.insertNew value fun hm => hnew (isSome_get?_iff.mpr hm)

theorem get?_append (r s : Record α) (name : String) :
    get? (r ++ s) name = (r.get? name).or (s.get? name) := by
  induction r with
  | nil => rfl
  | cons entry rest ih =>
    by_cases h : name = entry.1
    · simp [get?, h]
    · simp [get?, h, ih]

theorem exists_append_of_get? {r : Record α} {name : String} {value : α}
    (h : r.get? name = some value) :
    ∃ before after, r = before ++ (name, value) :: after ∧ name ∉ before.map Prod.fst := by
  induction r with
  | nil => cases h
  | cons entry rest ih =>
    by_cases hname : name = entry.1
    · simp only [get?, if_pos hname, Option.some.injEq] at h
      exact ⟨[], rest, by rw [hname, ← h]; rfl, by simp⟩
    · simp only [get?, if_neg hname] at h
      obtain ⟨before, after, rfl, hbefore⟩ := ih h
      exact ⟨entry :: before, after, rfl, by simp [hname, hbefore]⟩

theorem map_fst_erase (r : Record α) (name : String) :
    (r.erase name).map Prod.fst = (r.map Prod.fst).filter fun key => key ≠ name := by
  rw [erase, List.filter_map]
  rfl

theorem get?_erase_self (r : Record α) (name : String) : (r.erase name).get? name = none := by
  rw [get?_eq_none_iff, map_fst_erase]
  simp

theorem get?_erase_of_ne (r : Record α) {name other : String} (h : other ≠ name) :
    (r.erase name).get? other = r.get? other := by
  induction r with
  | nil => rfl
  | cons entry rest ih =>
    have hrest : get? (rest.filter fun e => e.1 ≠ name) other = get? rest other := ih
    by_cases hkey : entry.1 = name
    · have hne : other ≠ entry.1 := fun he => h (he.trans hkey)
      rw [erase, List.filter_cons_of_neg (by simpa using hkey), hrest, get?, if_neg hne]
    · rw [erase, List.filter_cons_of_pos (by simpa using hkey), get?, get?, hrest]

theorem Distinct.erase {r : Record α} (h : r.Distinct) (name : String) :
    (r.erase name).Distinct := by
  rw [Distinct, map_fst_erase]
  exact h.filter _

/-- In a record of distinct names, the name in the middle stands nowhere else. -/
theorem Distinct.notMem_of_append {before after : Record α} {name : String} {value : α}
    (h : Distinct (before ++ (name, value) :: after)) :
    name ∉ before.map Prod.fst ∧ name ∉ after.map Prod.fst := by
  rw [Distinct, List.map_append, List.map_cons] at h
  have hmid := List.perm_middle.nodup_iff.mp h
  rw [List.nodup_cons, List.mem_append, not_or] at hmid
  exact hmid.1

theorem get?_foldl_put {entries : List (String × α)} (h : Distinct entries) (r : Record α)
    (name : String) :
    (entries.foldl (fun r entry => r.put entry.1 entry.2) r).get? name =
      (get? entries name).or (r.get? name) := by
  induction entries generalizing r with
  | nil => rfl
  | cons entry rest ih =>
    obtain ⟨hfirst, hrest⟩ := List.nodup_cons.mp h
    rw [List.foldl_cons, ih hrest]
    by_cases hname : name = entry.1
    · have hnone : get? rest name = none := get?_eq_none_iff.mpr (hname ▸ hfirst)
      rw [hnone, hname, get?_put_self]
      simp [get?]
    · rw [get?_put_of_ne r entry.2 hname, get?, if_neg hname]

theorem get?_ofList {entries : List (String × α)} (h : Distinct entries) (name : String) :
    (ofList entries).get? name = get? entries name := by
  have hget := get?_foldl_put h [] name
  rwa [get?_nil, Option.or_none] at hget

theorem distinct_ofList (entries : List (String × α)) : (ofList entries).Distinct := by
  suffices h : ∀ r : Record α, r.Distinct →
      (entries.foldl (fun r entry => r.put entry.1 entry.2) r).Distinct from
    h [] List.nodup_nil
  induction entries with
  | nil => exact fun r hr => hr
  | cons entry rest ih => exact fun r hr => ih _ (hr.put entry.1 entry.2)

end Record

end Stagewise
