import Stagewise.Formula.Value

/-! Expressions of the formula language. The shorthands `items.*.price`, `items[done]` and
`items.length` have nodes of their own. The depth of an expression is found with a list of what is
still to be visited, so that no tree is too deep to be measured. -/

namespace Stagewise

inductive UnaryOp where
  | not
  | negate
deriving DecidableEq

inductive BinaryOp where
  | add
  | subtract
  | multiply
  | divide
  | remainder
  | equal
  | notEqual
  | same
  | notSame
  | greater
  | atLeast
  | less
  | atMost
  | and
  | or
deriving DecidableEq

def UnaryOp.symbol : UnaryOp → String
  | not => "!"
  | negate => "-"

namespace BinaryOp

def symbol : BinaryOp → String
  | add => "+"
  | subtract => "-"
  | multiply => "*"
  | divide => "/"
  | remainder => "%"
  | equal => "=="
  | notEqual => "!="
  | same => "==="
  | notSame => "!=="
  | greater => ">"
  | atLeast => ">="
  | less => "<"
  | atMost => "<="
  | and => "&&"
  | or => "||"

/-- Operators of a higher precedence bind tighter. -/
def precedence : BinaryOp → Nat
  | or => 1
  | and => 2
  | equal | notEqual | same | notSame => 3
  | greater | atLeast | less | atMost => 4
  | add | subtract => 5
  | multiply | divide | remainder => 6

end BinaryOp

inductive Expression where
  | literal (value : Value)
  | name (name : String)
  | array (items : List Expression)
  | member (object : Expression) (property : String)
  | index (object : Expression) (position : Expression)
  | projection (source : Expression) (key : String)
  | filter (source : Expression) (predicate : Expression)
  | length (operand : Expression)
  | call (callee : String) (args : List Expression)
  | lambda (param : String) (body : Expression)
  | unary (op : UnaryOp) (operand : Expression)
  | binary (op : BinaryOp) (left : Expression) (right : Expression)
  | conditional (test : Expression) (consequent : Expression) (alternate : Expression)
deriving Inhabited

namespace Expression

/-- The name of the current item in a bracket filter. It cannot be written in a formula. -/
def itemName : String := "@item"

def children : Expression → List Expression
  | literal _ | name _ => []
  | array items => items
  | call _ args => args
  | member e _ | projection e _ | length e | unary _ e | lambda _ e => [e]
  | index a b | filter a b | binary _ a b => [a, b]
  | conditional a b c => [a, b, c]

mutual

/-- The number of nodes. -/
def size : Expression → Nat
  | literal _ | name _ => 1
  | array items => sizeAll items + 1
  | call _ args => sizeAll args + 1
  | member e _ | projection e _ | length e | unary _ e | lambda _ e => e.size + 1
  | index a b | filter a b | binary _ a b => a.size + b.size + 1
  | conditional a b c => a.size + b.size + c.size + 1

def sizeAll : List Expression → Nat
  | [] => 0
  | e :: es => e.size + sizeAll es

end

mutual

/-- The number of levels: one more than the highest child has. -/
def height : Expression → Nat
  | literal _ | name _ => 1
  | array items => heightAll items + 1
  | call _ args => heightAll args + 1
  | member e _ | projection e _ | length e | unary _ e | lambda _ e => e.height + 1
  | index a b | filter a b | binary _ a b => max a.height b.height + 1
  | conditional a b c => max a.height (max b.height c.height) + 1

def heightAll : List Expression → Nat
  | [] => 0
  | e :: es => max e.height (heightAll es)

end

/-- The number of nodes that are still to be visited. -/
def pendingSize : List (Expression × Nat) → Nat
  | [] => 0
  | (e, _) :: rest => e.size + pendingSize rest

theorem pendingSize_append (ps qs : List (Expression × Nat)) :
    pendingSize (ps ++ qs) = pendingSize ps + pendingSize qs := by
  induction ps with
  | nil => simp [pendingSize]
  | cons p ps ih => simp [pendingSize, ih, Nat.add_assoc]

theorem pendingSize_map (es : List Expression) (level : Nat) :
    pendingSize (es.map fun e => (e, level)) = sizeAll es := by
  induction es with
  | nil => rfl
  | cons e es ih => simp [pendingSize, sizeAll, ih]

theorem sizeAll_children (e : Expression) : sizeAll e.children + 1 = e.size := by
  cases e <;> simp [children, size, sizeAll, Nat.add_assoc]

/-- The deepest level met when the pending nodes, each with its level, are visited with all that is
below them. -/
def deepest (pending : List (Expression × Nat)) (best : Nat) : Nat :=
  match pending with
  | [] => best
  | (e, level) :: rest =>
    deepest ((e.children.map fun child => (child, level + 1)) ++ rest) (max best level)
termination_by pendingSize pending
decreasing_by
  rw [pendingSize_append, pendingSize_map, pendingSize]
  exact Nat.add_lt_add_right (sizeAll_children e ▸ Nat.lt_succ_self _) _

/-- The number of levels of the tree. -/
def depth (e : Expression) : Nat :=
  deepest [(e, 1)] 0

mutual

/-- The names that are read from the record, in the order they are met: every name but the bound
ones. -/
def freeNames (bound : List String) : Expression → List String
  | literal _ => []
  | name n => if n ∈ bound then [] else [n]
  | array items => freeNamesAll bound items
  | call _ args => freeNamesAll bound args
  | member e _ | projection e _ | length e | unary _ e => freeNames bound e
  | filter source predicate => freeNames bound source ++ freeNames (itemName :: bound) predicate
  | lambda param body => freeNames (param :: bound) body
  | index a b | binary _ a b => freeNames bound a ++ freeNames bound b
  | conditional a b c => freeNames bound a ++ freeNames bound b ++ freeNames bound c

def freeNamesAll (bound : List String) : List Expression → List String
  | [] => []
  | e :: es => freeNames bound e ++ freeNamesAll bound es

end

/-- The names that are read from the record, each once, in order. -/
def referencedFields (e : Expression) : List String :=
  (Record.ofList ((e.freeNames []).map fun n => (n, ()))).map Prod.fst

/-- The dotted name of a name or of a chain of members on one. -/
def path? : Expression → Option String
  | name n => some n
  | member object property => object.path?.map fun base => base ++ "." ++ property
  | _ => none

/-- A read from the current item in place of a name. -/
def itemRead (n : String) : Expression :=
  if n = "length" then length (name itemName) else member (name itemName) n

mutual

/-- The predicate of a bracket filter with its first name, from left to right, read from the
current item. Names inside arrow functions and inside the predicates of other filters do not
count; without another there is no answer. -/
def bindItem? : Expression → Option Expression
  | name n => some (itemRead n)
  | literal _ | lambda _ _ => none
  | array items => (bindItemIn? items).map array
  | call callee args => (bindItemIn? args).map (call callee)
  | member e property => e.bindItem?.map fun e' => member e' property
  | projection e key => e.bindItem?.map fun e' => projection e' key
  | filter source predicate => source.bindItem?.map fun s => filter s predicate
  | length e => e.bindItem?.map length
  | unary op e => e.bindItem?.map (unary op)
  | index a b =>
    match a.bindItem? with
    | some a' => some (index a' b)
    | none => b.bindItem?.map (index a)
  | binary op a b =>
    match a.bindItem? with
    | some a' => some (binary op a' b)
    | none => b.bindItem?.map (binary op a)
  | conditional a b c =>
    match a.bindItem? with
    | some a' => some (conditional a' b c)
    | none =>
      match b.bindItem? with
      | some b' => some (conditional a b' c)
      | none => c.bindItem?.map (conditional a b)

def bindItemIn? : List Expression → Option (List Expression)
  | [] => none
  | e :: es =>
    match e.bindItem? with
    | some e' => some (e' :: es)
    | none => (bindItemIn? es).map (e :: ·)

end

/-- A predicate with its leading name read from the current item. -/
def boundToItem (predicate : Expression) : Expression :=
  predicate.bindItem?.getD predicate

end Expression

end Stagewise
