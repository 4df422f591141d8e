import Stagewise.Number.Layout
import Stagewise.Text.Quoted

/-! Tokens of formula text: numbers, strings, names, operators and the end of the text. -/

namespace Stagewise

inductive Symbol where
  | leftParen
  | rightParen
  | leftBracket
  | rightBracket
  | comma
  | dot
  | question
  | colon
  | arrow
  | bang
  | plus
  | minus
  | star
  | slash
  | percent
  | equal
  | notEqual
  | same
  | notSame
  | less
  | atMost
  | greater
  | atLeast
  | and
  | or
deriving DecidableEq

def Symbol.text : Symbol → String
  | leftParen => "("
  | rightParen => ")"
  | leftBracket => "["
  | rightBracket => "]"
  | comma => ","
  | dot => "."
  | question => "?"
  | colon => ":"
  | arrow => "=>"
  | bang => "!"
  | plus => "+"
  | minus => "-"
  | star => "*"
  | slash => "/"
  | percent => "%"
  | equal => "=="
  | notEqual => "!="
  | same => "==="
  | notSame => "!=="
  | less => "<"
  | atMost => "<="
  | greater => ">"
  | atLeast => ">="
  | and => "&&"
  | or => "||"

inductive TokenKind where
  | number (x : Float)
  | text (s : String)
  | name (n : String)
  | symbol (s : Symbol)
  | finish
deriving DecidableEq

/-- How a token is called in a message. -/
def TokenKind.show : TokenKind → String
  | number x => Double.plain x
  | text s => quoted s
  | name n => n
  | symbol s => s.text
  | finish => "end of expression"

/-- A token and the byte of the source at which it starts. -/
structure Token where
  kind : TokenKind
  position : Nat
deriving DecidableEq

end Stagewise
