import Stagewise.Formula.Evaluation

/-! Contexts: the fields of one record, which are the names that a formula can read. Functions are
found by where they are called, so a field never hides one. -/

namespace Stagewise

structure Context where
  fields : Record Value

namespace Context

def empty : Context := ⟨[]⟩

/-- The fields of an object; anything else has none. -/
def ofJson : Json → Context
  | .object fields => ⟨Value.ofJsonFields fields⟩
  | _ => empty

def get? (c : Context) (name : String) : Option Value :=
  c.fields.get? name

def insert (c : Context) (name : String) (value : Value) : Context :=
  ⟨c.fields.put name value⟩

def size (c : Context) : Nat :=
  c.fields.length

def scope (c : Context) : Scope :=
  c.get?

@[simp] theorem get?_insert_self (c : Context) (name : String) (value : Value) :
    (c.insert name value).get? name = some value :=
  Record.get?_put_self ..

theorem get?_insert_of_ne (c : Context) {name other : String} (value : Value) (h : other ≠ name) :
    (c.insert name value).get? other = c.get? other :=
  Record.get?_put_of_ne _ _ h

end Context

end Stagewise
