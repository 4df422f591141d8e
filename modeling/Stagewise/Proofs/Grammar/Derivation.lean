import Stagewise.Formula.Grammar

/-! The grammar of formulas as a relation between a phrase, the tokens from its first one on, the
tokens after it and the expression that it writes. Nothing in it refers to the parser. The two
numbers count levels as formulas are limited by them: those that a phrase still has in use at its
end, and the most that it has in use at one time. -/

namespace Stagewise

namespace Grammar

inductive Phrase where
  | expression
  /-- Operands joined by operators of the given level or of tighter ones. -/
  | chain (level : Nat)
  | operand
  | suffixed
  | primary
  /-- Expressions parted by commas, with the symbol that closes them, read as an array. -/
  | list (closing : Symbol)
  /-- The same, and nothing but the closing symbol. -/
  | listOrEmpty (closing : Symbol)

/-- The operators of each level, from the loosest on. -/
def operators : Nat → List (Symbol × BinaryOp)
  | 1 => [(.or, .or)]
  | 2 => [(.and, .and)]
  | 3 => [(.equal, .equal), (.notEqual, .notEqual), (.same, .same), (.notSame, .notSame)]
  | 4 => [(.less, .less), (.atMost, .atMost), (.greater, .greater), (.atLeast, .atLeast)]
  | 5 => [(.plus, .add), (.minus, .subtract)]
  | 6 => [(.star, .multiply), (.slash, .divide), (.percent, .remainder)]
  | _ => []

def signs : List (Symbol × UnaryOp) :=
  [(.bang, .not), (.minus, .negate)]

def keywords : List (String × Value) :=
  [("true", .bool true), ("false", .bool false), ("null", .null), ("undefined", .null)]

/-- A literal that stands alone before a closing bracket, and the tokens after that. -/
inductive LiteralIndex : List Token → Value → List Token → Prop where
  | number {x : Float} {p q : Nat} {rest : List Token} :
    LiteralIndex (⟨.number x, p⟩ :: ⟨.symbol .rightBracket, q⟩ :: rest) (.number x) rest
  | text {s : String} {p q : Nat} {rest : List Token} :
    LiteralIndex (⟨.text s, p⟩ :: ⟨.symbol .rightBracket, q⟩ :: rest) (.text s) rest
  | negated {x : Float} {p q r : Nat} {rest : List Token} :
    LiteralIndex (⟨.symbol .minus, p⟩ :: ⟨.number x, q⟩ :: ⟨.symbol .rightBracket, r⟩ :: rest)
      (.number (-x)) rest

/-- A name or a chain of members on one, and its dotted name. -/
inductive Dotted : Expression → String → Prop where
  | name (n : String) : Dotted (.name n) n
  | member {object : Expression} {path : String} (property : String) (h : Dotted object path) :
    Dotted (.member object property) (path ++ "." ++ property)

/-- The kind of the next token. -/
def nextKind : List Token → TokenKind
  | [] => .finish
  | token :: _ => token.kind

@[simp] theorem nextKind_cons (token : Token) (ts : List Token) :
    nextKind (token :: ts) = token.kind := rfl

/-- What an arrow function may be followed by. -/
def Closes (rest : List Token) : Prop :=
  nextKind rest ∈ [.symbol .rightParen, .symbol .rightBracket, .symbol .comma, .symbol .colon,
    .finish]

inductive Derives : Phrase → List Token → List Token → Expression → Nat → Nat → Prop where
  | plain {ts rest : List Token} {e : Expression} {k m : Nat}
    (h : Derives (.chain 1) ts rest e k m) : Derives .expression ts rest e 0 (m + 1)
  | conditional {ts us vs rest : List Token} {a b c : Expression} {k m i n j l p q : Nat}
    (test : Derives (.chain 1) ts (⟨.symbol .question, p⟩ :: us) a k m)
    (consequent : Derives .expression us (⟨.symbol .colon, q⟩ :: vs) b i n)
    (alternate : Derives .expression vs rest c j l) :
    Derives .expression ts rest (.conditional a b c) 0 (max m (max n l) + 1)
  | single {ts rest : List Token} {e : Expression} {k m : Nat}
    (h : Derives .operand ts rest e k m) : Derives (.chain 7) ts rest e 0 m
  | tighter {level : Nat} {ts rest : List Token} {e : Expression} {k m : Nat}
    (h : Derives (.chain (level + 1)) ts rest e k m) : Derives (.chain level) ts rest e k m
  | operation {level : Nat} {s : Symbol} {op : BinaryOp} {ts us rest : List Token}
    {a b : Expression} {k m i n p : Nat} (known : (s, op) ∈ operators level)
    (left : Derives (.chain level) ts (⟨.symbol s, p⟩ :: us) a k m)
    (right : Derives (.chain (level + 1)) us rest b i n) :
    Derives (.chain level) ts rest (.binary op a b) (k + 1) (max m (k + 1 + n))
  | signed {s : Symbol} {op : UnaryOp} {ts rest : List Token} {e : Expression} {k m p : Nat}
    (known : (s, op) ∈ signs) (h : Derives .operand ts rest e k m) :
    Derives .operand (⟨.symbol s, p⟩ :: ts) rest (.unary op e) 0 (m + 1)
  | unsigned {ts rest : List Token} {e : Expression} {k m : Nat}
    (h : Derives .suffixed ts rest e k m) : Derives .operand ts rest e 0 m
  | bare {ts rest : List Token} {e : Expression} {k m : Nat}
    (h : Derives .primary ts rest e k m) : Derives .suffixed ts rest e 0 m
  | length {ts rest : List Token} {e : Expression} {k m p q : Nat}
    (h : Derives .suffixed ts (⟨.symbol .dot, p⟩ :: ⟨.name "length", q⟩ :: rest) e k m) :
    Derives .suffixed ts rest (.length e) (k + 1) (max m (k + 1))
  | member {n : String} {ts rest : List Token} {e : Expression} {k m p q : Nat}
    (other : n ≠ "length")
    (h : Derives .suffixed ts (⟨.symbol .dot, p⟩ :: ⟨.name n, q⟩ :: rest) e k m) :
    Derives .suffixed ts rest (.member e n) (k + 1) (max m (k + 1))
  | projection {n : String} {ts rest : List Token} {e : Expression} {k m p q r t : Nat}
    (h : Derives .suffixed ts
      (⟨.symbol .dot, p⟩ :: ⟨.symbol .star, q⟩ :: ⟨.symbol .dot, r⟩ :: ⟨.name n, t⟩ :: rest) e k m) :
    Derives .suffixed ts rest (.projection e n) (k + 1) (max m (k + 1))
  | index {v : Value} {ts us rest : List Token} {e : Expression} {k m p : Nat}
    (h : Derives .suffixed ts (⟨.symbol .leftBracket, p⟩ :: us) e k m)
    (literal : LiteralIndex us v rest) :
    Derives .suffixed ts rest (.index e (.literal v)) (k + 1) (max m (k + 1))
  | filter {ts us rest : List Token} {a b : Expression} {k m i n p q : Nat}
    (h : Derives .suffixed ts (⟨.symbol .leftBracket, p⟩ :: us) a k m)
    (other : ∀ v vs, ¬ LiteralIndex us v vs)
    (predicate : Derives .expression us (⟨.symbol .rightBracket, q⟩ :: rest) b i n) :
    Derives .suffixed ts rest (.filter a b.boundToItem) (k + 1) (max m (k + 1 + n))
  | call {path : String} {ts us rest : List Token} {e : Expression} {args : List Expression}
    {k m i n p : Nat} (h : Derives .suffixed ts (⟨.symbol .leftParen, p⟩ :: us) e k m)
    (callee : Dotted e path)
    (arguments : Derives (.listOrEmpty .rightParen) us rest (.array args) i n) :
    Derives .suffixed ts rest (.call path args) (k + 1) (max m (k + 1 + n))
  | number {x : Float} {rest : List Token} {p : Nat} :
    Derives .primary (⟨.number x, p⟩ :: rest) rest (.literal (.number x)) 0 0
  | text {s : String} {rest : List Token} {p : Nat} :
    Derives .primary (⟨.text s, p⟩ :: rest) rest (.literal (.text s)) 0 0
  | keyword {n : String} {v : Value} {rest : List Token} {p : Nat} (known : (n, v) ∈ keywords) :
    Derives .primary (⟨.name n, p⟩ :: rest) rest (.literal v) 0 0
  | name {n : String} {rest : List Token} {p : Nat} (free : n ∉ keywords.map Prod.fst) :
    Derives .primary (⟨.name n, p⟩ :: rest) rest (.name n) 0 0
  | lambda {n : String} {ts rest : List Token} {e : Expression} {k m p q : Nat}
    (free : n ∉ keywords.map Prod.fst) (body : Derives .expression ts rest e k m)
    (closes : Closes rest) :
    Derives .primary (⟨.name n, p⟩ :: ⟨.symbol .arrow, q⟩ :: ts) rest (.lambda n e) 0 m
  | group {ts rest : List Token} {e : Expression} {k m p q : Nat}
    (h : Derives .expression ts (⟨.symbol .rightParen, q⟩ :: rest) e k m) :
    Derives .primary (⟨.symbol .leftParen, p⟩ :: ts) rest e 0 m
  | array {ts rest : List Token} {es : List Expression} {k m p : Nat}
    (h : Derives (.listOrEmpty .rightBracket) ts rest (.array es) k m) :
    Derives .primary (⟨.symbol .leftBracket, p⟩ :: ts) rest (.array es) 0 m
  | empty {closing : Symbol} {rest : List Token} {p : Nat} :
    Derives (.listOrEmpty closing) (⟨.symbol closing, p⟩ :: rest) rest (.array []) 0 0
  | nonempty {closing : Symbol} {ts rest : List Token} {es : List Expression} {k m : Nat}
    (h : Derives (.list closing) ts rest (.array es) k m) :
    Derives (.listOrEmpty closing) ts rest (.array es) 0 m
  | last {closing : Symbol} {ts rest : List Token} {e : Expression} {k m p : Nat}
    (h : Derives .expression ts (⟨.symbol closing, p⟩ :: rest) e k m) :
    Derives (.list closing) ts rest (.array [e]) 0 m
  | more {closing : Symbol} {ts us rest : List Token} {e : Expression} {es : List Expression}
    {k m i n p : Nat} (first : Derives .expression ts (⟨.symbol .comma, p⟩ :: us) e k m)
    (others : Derives (.list closing) us rest (.array es) i n) :
    Derives (.list closing) ts rest (.array (e :: es)) 0 (max m n)

/-- The tokens of a whole formula, its expression and the most levels in use at one time. -/
def Sentence (tokens : List Token) (e : Expression) (levels : Nat) : Prop :=
  ∃ k p, Derives .expression tokens [⟨.finish, p⟩] e k levels

/-- Every phrase has a token of its own. -/
theorem Derives.length_lt {phrase : Phrase} {ts rest : List Token} {e : Expression} {k m : Nat}
    (h : Derives phrase ts rest e k m) : rest.length < ts.length := by
  induction h with
  | index _ literal ih => cases literal <;> grind
  | _ => grind

theorem Derives.ne_nil {phrase : Phrase} {ts rest : List Token} {e : Expression} {k m : Nat}
    (h : Derives phrase ts rest e k m) : ts ≠ [] :=
  List.ne_nil_of_length_pos (Nat.zero_lt_of_lt h.length_lt)

theorem Derives.list_length_le {closing : Symbol} {ts rest : List Token} {es : List Expression}
    {k m : Nat} (h : Derives (.list closing) ts rest (.array es) k m) : es.length ≤ ts.length := by
  generalize hp : Phrase.list closing = phrase at h
  generalize he : Expression.array es = e at h
  induction h generalizing es with
  | last h =>
    obtain rfl := Expression.array.inj he
    have := h.length_lt
    simp only [List.length_cons, List.length_nil] at this ⊢
    omega
  | more first others _ ih =>
    obtain rfl := Expression.array.inj he
    have := first.length_lt
    have := ih hp rfl
    simp only [List.length_cons] at *
    omega
  | _ => cases hp

/-- An operator or bracket that starts a phrase is a sign or opens a group or an array. -/
theorem Derives.first_symbol {phrase : Phrase} {ts rest : List Token} {e : Expression}
    {k m : Nat} (h : Derives phrase ts rest e k m) (hp : ∀ closing, phrase ≠ .listOrEmpty closing)
    {s : Symbol} (hs : nextKind ts = .symbol s) :
    s ∈ [.bang, .minus, .leftParen, .leftBracket] := by
  induction h with
  | signed known =>
    obtain rfl := TokenKind.symbol.inj hs
    simp only [signs, List.mem_cons, List.not_mem_nil, Prod.mk.injEq, or_false] at known
    rcases known with ⟨rfl, -⟩ | ⟨rfl, -⟩ <;> decide
  | group =>
    obtain rfl := TokenKind.symbol.inj hs
    decide
  | array =>
    obtain rfl := TokenKind.symbol.inj hs
    decide
  | empty => exact absurd rfl (hp _)
  | nonempty => exact absurd rfl (hp _)
  | number | text | keyword | name | lambda => cases hs
  | conditional _ _ _ ih | operation _ _ _ ih | filter _ _ _ ih | call _ _ _ ih | more _ _ ih =>
    exact ih (by simp) hs
  | _ => simp_all

end Grammar

end Stagewise
