/-! Records: named values, held in the order of their names. A name is looked up at its first
occurrence, so the laws below need no assumption on the list. -/

namespace Stagewise

abbrev Record (α : Type) := List (String × α)

namespace Record

variable {α : Type}

def get? (r : Record α) (name : String) : Option α :=
  match r with
  | [] => none
  | (key, value) :: rest => if name = key then some value else get? rest name

/-- Gives a name that is there another value. -/
def replace (r : Record α) (name : String) (value : α) : Record α :=
  match r with
  | [] => []
  | (key, old) :: rest =>
    if name = key then (name, value) :: rest else (key, old) :: replace rest name value

/-- Adds a name before the first greater one. -/
def insertNew (r : Record α) (name : String) (value : α) : Record α :=
  match r with
  | [] => [(name, value)]
  | (key, old) :: rest =>
    if name < key then (name, value) :: (key, old) :: rest
    else (key, old) :: insertNew rest name value

/-- Sets a name: in place if it is there, otherwise before the first greater name. -/
def put (r : Record α) (name : String) (value : α) : Record α :=
  if (r.get? name).isSome then r.replace name value else r.insertNew name value

/-- Takes a name away. -/
def erase (r : Record α) (name : String) : Record α :=
  r.filter fun entry => entry.1 ≠ name

/-- Of several values for one name the last counts. -/
def ofList (entries : List (String × α)) : Record α :=
  entries.foldl (fun r entry => r.put entry.1 entry.2) []

@[simp] theorem get?_nil (name : String) : get? ([] : Record α) name = none := rfl

theorem get?_replace_self {r : Record α} {name : String} (value : α)
    (h : (r.get? name).isSome = true) : (r.replace name value).get? name = some value := by
  induction r with
  | nil => simp [get?] at h
  | cons entry rest ih =>
    by_cases hk : name = entry.1
    · simp [replace, get?, hk]
    · simp only [get?, if_neg hk] at h
      simp [replace, get?, hk, ih h]

theorem get?_replace_of_ne (r : Record α) {name other : String} (value : α) (h : other ≠ name) :
    (r.replace name value).get? other = r.get? other := by
  induction r with
  | nil => rfl
  | cons entry rest ih =>
    by_cases hk : name = entry.1
    · simp [replace, get?, ← hk, h]
    · simp [replace, get?, hk, ih]

/-- A value that is set to what it is leaves all as it was. -/
theorem replace_eq_self {r : Record α} {name : String} {value : α}
    (h : r.get? name = some value) : r.replace name value = r := by
  induction r with
  | nil => rfl
  | cons entry rest ih =>
    by_cases hk : name = entry.1
    · simp only [get?, if_pos hk, Option.some.injEq] at h
      simp [replace, hk, ← h]
    · simp only [get?, if_neg hk] at h
      simp [replace, hk, ih h]

theorem map_fst_replace (r : Record α) (name : String) (value : α) :
    (r.replace name value).map Prod.fst = r.map Prod.fst := by
  induction r with
  | nil => rfl
  | cons entry rest ih =>
    by_cases hk : name = entry.1
    · simp [replace, hk]
    · simp [replace, hk, ih]

theorem get?_insertNew_self {r : Record α} {name : String} (value : α)
    (h : r.get? name = none) : (r.insertNew name value).get? name = some value := by
  induction r with
  | nil => simp [insertNew, get?]
  | cons entry rest ih =>
    by_cases hk : name = entry.1
    · simp [get?, hk] at h
    · simp only [get?, if_neg hk] at h
      by_cases hl : name < entry.1
      · simp [insertNew, get?, hl]
      · simp [insertNew, get?, hl, hk, ih h]

theorem get?_insertNew_of_ne (r : Record α) {name other : String} (value : α)
    (h : other ≠ name) : (r.insertNew name value).get? other = r.get? other := by
  induction r with
  | nil => simp [insertNew, get?, h]
  | cons entry rest ih =>
    by_cases hl : name < entry.1
    · simp [insertNew, get?, hl, h]
    · simp [insertNew, get?, hl, ih]

@[simp] theorem get?_put_self (r : Record α) (name : String) (value : α) :
    (r.put name value).get? name = some value := by
  by_cases h : (r.get? name).isSome = true
  · simp [put, h, get?_replace_self]
  · simp [put, h, get?_insertNew_self value (by simpa using h)]

theorem get?_put_of_ne (r : Record α) {name other : String} (value : α) (h : other ≠ name) :
    (r.put name value).get? other = r.get? other := by
  unfold put
  split
  · exact get?_replace_of_ne r value h
  · exact get?_insertNew_of_ne r value h

theorem put_eq_self {r : Record α} {name : String} {value : α} (h : r.get? name = some value) :
    r.put name value = r := by
  simp [put, h, replace_eq_self h]

end Record

end Stagewise
