import Stagewise.Formula.Expression
import Stagewise.Formula.ParseError

/-! The grammar of formulas, read from a list of tokens. Operators bind by their precedence and
chains of one precedence lean to the left. A counter of the levels in use grows with every nested
expression, sign, operator and suffix, and a formula that would use more than the limit of them is
refused. The parsers form a tower: those at one height build on those below, and the counter refuses
a formula before the ground is reached. -/

namespace Stagewise

namespace Grammar

/-- The levels that a formula may use. -/
def maxDepth : Nat := 64

/-- The tokens that are left and the levels in use. -/
structure State where
  tokens : List Token
  depth : Nat

abbrev Parser (α : Type) := EStateM ParseError State α

def State.leave (s : State) : State :=
  { s with depth := s.depth - 1 }

/-- The kind of the next token. -/
def State.next (s : State) : TokenKind :=
  match s.tokens with
  | [] => .finish
  | token :: _ => token.kind

/-- The state after the next token. The last token of all stays. -/
def State.advance (s : State) : State :=
  match s.tokens with
  | _ :: token :: rest => { s with tokens := token :: rest }
  | _ => s

def enter (limit : Nat) : Parser Unit := fun s =>
  let s := { s with depth := s.depth + 1 }
  if limit < s.depth then .error (.tooDeep limit) s else .ok () s

/-- A parser one level further in; the level is left again whether it succeeds or not. -/
def nested {α : Type} (limit : Nat) (p : Parser α) : Parser α := fun s =>
  match enter limit s with
  | .error e s => .error e s
  | .ok _ s =>
    match p s with
    | .ok a s => .ok a s.leave
    | .error e s => .error e s.leave

/-- A parser whose levels all end with it. -/
def levelled {α : Type} (p : Parser α) : Parser α := do
  let s ← get
  let a ← p
  modify fun t => { t with depth := s.depth }
  pure a

def advance : Parser Unit :=
  modify State.advance

/-- Takes the next token if it is the given one. -/
def eat (kind : TokenKind) : Parser Bool := do
  let s ← get
  if s.next = kind then
    advance
    pure true
  else
    pure false

/-- The complaint about a token that is not what was wanted. -/
def unexpected {α : Type} (expected : Expected) (token : Option Token) : Parser α :=
  match token with
  | none => throw (.unexpectedEnd expected)
  | some token =>
    if token.kind = .finish then throw (.unexpectedEnd expected)
    else throw (.unexpectedToken expected token.kind token.position)

def expect (kind : TokenKind) (expected : Expected) : Parser Unit := do
  if ← eat kind then pure () else unexpected expected (← get).tokens.head?

def expectName (expected : Expected) : Parser String := do
  match (← get).next with
  | .name n =>
    advance
    pure n
  | _ => unexpected expected (← get).tokens.head?

/-- Items parted by commas, the first still to come, and the symbol that closes them. Every item
takes a token, so as many rounds as there are tokens are enough: the list only counts them. -/
def items (item : Parser Expression) (closing : Symbol) (expected : Expected) :
    List Token → Parser (List Expression)
  | [] => throw (.unexpectedEnd expected)
  | _ :: rounds => do
    let e ← item
    if ← eat (.symbol closing) then
      pure [e]
    else
      expect (.symbol .comma) expected
      let es ← items item closing expected rounds
      pure (e :: es)

/-- What stands between brackets or parentheses after the opening one. -/
def itemsUntil (item : Parser Expression) (closing : Symbol) (expected : Expected) :
    Parser (List Expression) := do
  if ← eat (.symbol closing) then pure []
  else items item closing expected (← get).tokens

/-- A number, a string or a negated number as the only thing before a closing bracket, and the
tokens after that. -/
def literalIndex? : List Token → Option (Value × List Token)
  | ⟨.number x, _⟩ :: ⟨.symbol .rightBracket, _⟩ :: rest => some (.number x, rest)
  | ⟨.text s, _⟩ :: ⟨.symbol .rightBracket, _⟩ :: rest => some (.text s, rest)
  | ⟨.symbol .minus, _⟩ :: ⟨.number x, _⟩ :: ⟨.symbol .rightBracket, _⟩ :: rest =>
    some (.number (-x), rest)
  | _ => none

/-- What follows an opening bracket after an object: an index or a filter. -/
def bracketSuffix (expression : Parser Expression) (object : Expression) : Parser Expression := do
  let s ← get
  match literalIndex? s.tokens with
  | some (position, rest) =>
    set { s with tokens := rest }
    pure (.index object (.literal position))
  | none =>
    let predicate ← expression
    expect (.symbol .rightBracket) .filterEnd
    pure (.filter object predicate.boundToItem)

/-- What follows a point after an object: a projection, the length or a member. -/
def dotSuffix (object : Expression) : Parser Expression := do
  if ← eat (.symbol .star) then
    expect (.symbol .dot) .dotAfterStar
    let key ← expectName .keyName
    pure (.projection object key)
  else
    let property ← expectName .propertyName
    pure (if property = "length" then .length object else .member object property)

/-- The call of a function whose name has been read. -/
def callSuffix (expression : Parser Expression) (callee : Expression) : Parser Expression := do
  let s ← get
  match callee.path? with
  | none => throw (.notCallable ((s.tokens.head?.map Token.position).getD 0))
  | some path =>
    advance
    let args ← itemsUntil expression .rightParen .argumentEnd
    pure (.call path args)

inductive Suffix where
  | dot
  | bracket
  | call

def suffix? : TokenKind → Option Suffix
  | .symbol .dot => some .dot
  | .symbol .leftBracket => some .bracket
  | .symbol .leftParen => some .call
  | _ => none

def suffixOf (expression : Parser Expression) (object : Expression) : Suffix → Parser Expression
  | .dot => do
    advance
    dotSuffix object
  | .bracket => do
    advance
    bracketSuffix expression object
  | .call => callSuffix expression object

def keyword? (n : String) : Option Value :=
  if n = "true" then some (.bool true)
  else if n = "false" then some (.bool false)
  else if n = "null" ∨ n = "undefined" then some .null
  else none

def nameOrLambda (expression : Parser Expression) (n : String) : Parser Expression := do
  match keyword? n with
  | some value => pure (.literal value)
  | none =>
    if ← eat (.symbol .arrow) then
      let body ← expression
      pure (.lambda n body)
    else
      pure (.name n)

def group (expression : Parser Expression) : Parser Expression := do
  let inner ← expression
  expect (.symbol .rightParen) .groupEnd
  pure inner

def primary (expression : Parser Expression) : Parser Expression := do
  let token := (← get).tokens.head?
  advance
  match token.map Token.kind with
  | some (.number x) => pure (.literal (.number x))
  | some (.text s) => pure (.literal (.text s))
  | some (.name n) => nameOrLambda expression n
  | some (.symbol .leftParen) => group expression
  | some (.symbol .leftBracket) => do
    let es ← itemsUntil expression .rightBracket .arrayEnd
    pure (.array es)
  | _ => unexpected .value token

def unaryOp? : TokenKind → Option UnaryOp
  | .symbol .bang => some .not
  | .symbol .minus => some .negate
  | _ => none

def binaryOp? : TokenKind → Option BinaryOp
  | .symbol .or => some .or
  | .symbol .and => some .and
  | .symbol .equal => some .equal
  | .symbol .notEqual => some .notEqual
  | .symbol .same => some .same
  | .symbol .notSame => some .notSame
  | .symbol .greater => some .greater
  | .symbol .atLeast => some .atLeast
  | .symbol .less => some .less
  | .symbol .atMost => some .atMost
  | .symbol .plus => some .add
  | .symbol .minus => some .subtract
  | .symbol .star => some .multiply
  | .symbol .slash => some .divide
  | .symbol .percent => some .remainder
  | _ => none

def conditional (test expression : Parser Expression) : Parser Expression := do
  let test ← test
  if ← eat (.symbol .question) then
    let consequent ← expression
    expect (.symbol .colon) .conditionalColon
    let alternate ← expression
    pure (.conditional test consequent alternate)
  else
    pure test

/-- The parsers at one height of the tower. -/
structure Level where
  /-- A whole expression. -/
  expression : Parser Expression
  /-- A chain of operators of at least the given precedence. -/
  binary : Nat → Parser Expression
  /-- The rest of such a chain after what stands on its left. -/
  chain : Nat → Expression → Parser Expression
  /-- An operand with its signs and suffixes. -/
  unary : Parser Expression
  /-- The suffixes of an operand. -/
  suffixes : Expression → Parser Expression

namespace Level

variable (limit : Nat)

/-- On the ground everything is too deep. -/
def ground : Level where
  expression := throw (.tooDeep limit)
  binary _ := throw (.tooDeep limit)
  chain _ _ := throw (.tooDeep limit)
  unary := throw (.tooDeep limit)
  suffixes _ := throw (.tooDeep limit)

variable (below : Level)

def expressionOver : Parser Expression :=
  nested limit (conditional (below.binary 1) below.expression)

def suffixesOver (object : Expression) : Parser Expression := do
  match suffix? (← get).next with
  | none => pure object
  | some suffix =>
    enter limit
    let object ← suffixOf below.expression object suffix
    below.suffixes object

def postfixOver : Parser Expression := do
  let object ← primary (below.expressionOver limit)
  levelled (below.suffixesOver limit object)

def unaryOver : Parser Expression := do
  match unaryOp? (← get).next with
  | none => below.postfixOver limit
  | some op =>
    advance
    let operand ← nested limit below.unary
    pure (.unary op operand)

def chainOver (least : Nat) (left : Expression) : Parser Expression := do
  match binaryOp? (← get).next with
  | none => pure left
  | some op =>
    if op.precedence < least then pure left
    else
      advance
      enter limit
      let right ← below.binary (op.precedence + 1)
      below.chain least (.binary op left right)

def binaryOver (least : Nat) : Parser Expression := do
  let left ← below.unaryOver limit
  levelled (below.chainOver limit least left)

/-- The parsers one level further up. -/
def raised : Level where
  expression := below.expressionOver limit
  binary := below.binaryOver limit
  chain := below.chainOver limit
  unary := below.unaryOver limit
  suffixes := below.suffixesOver limit

/-- The tower up to the given height. -/
def ofHeight : Nat → Level
  | 0 => ground limit
  | height + 1 => (ofHeight height).raised limit

end Level

/-- A whole formula: an expression and the end of the text. It starts at a height from which the
ground is out of reach. -/
def formula (limit : Nat) : Parser Expression := do
  let e ← (Level.ofHeight limit (limit + 1)).expression
  expect .finish .endOfExpression
  pure e

/-- The expression that the tokens of a whole formula write. -/
def parseTokens (tokens : List Token) : Except ParseError Expression :=
  match formula maxDepth ⟨tokens, 0⟩ with
  | .ok e _ => .ok e
  | .error e _ => .error e

end Grammar

end Stagewise
