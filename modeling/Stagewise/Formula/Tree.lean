import Stagewise.Formula.Expression

/-! An expression drawn as a tree: a line for each node, children under their parent and four
columns further in. -/

namespace Stagewise

namespace Expression

/-- What a line says about its node. -/
def label : Expression → String
  | literal value => "Literal: " ++ value.display
  | name n => "Field: " ++ n
  | array items => "Array [" ++ toString items.length ++ "]"
  | member _ property => "Member ." ++ property
  | index _ _ => "Index []"
  | projection _ key => "Projection .*." ++ key
  | filter _ _ => "Filter [item => ...]"
  | length _ => "Length (null-safe)"
  | call callee _ => "Call " ++ callee ++ "()"
  | lambda param _ => "Lambda " ++ param ++ " =>"
  | unary op _ => "Unary (" ++ op.symbol ++ ")"
  | binary op _ _ => "Binary (" ++ op.symbol ++ ")"
  | conditional _ _ _ => "Conditional (?:)"

def branch (last : Bool) : String :=
  if last then "└── " else "├── "

def indent (margin : String) (last : Bool) : String :=
  margin ++ (if last then "    " else "│   ")

mutual

/-- The lines of a node and all below it. The margin stands before each of them. -/
def treeLines (margin : String) (last : Bool) (e : Expression) : List String :=
  (margin ++ branch last ++ e.label) ::
    match e with
    | literal _ | name _ => []
    | array items => childLines (indent margin last) items
    | call _ args => childLines (indent margin last) args
    | member a _ | projection a _ | length a | unary _ a | lambda _ a =>
      treeLines (indent margin last) true a
    | index a b | filter a b | binary _ a b =>
      treeLines (indent margin last) false a ++ treeLines (indent margin last) true b
    | conditional a b c =>
      treeLines (indent margin last) false a ++ treeLines (indent margin last) false b ++
        treeLines (indent margin last) true c

def childLines (margin : String) : List Expression → List String
  | [] => []
  | e :: es => treeLines margin es.isEmpty e ++ childLines margin es

end

def tree (e : Expression) : String :=
  String.join ((e.treeLines "" true).map fun line => line ++ "\n")

end Expression

end Stagewise
