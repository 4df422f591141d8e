import Stagewise.Json.Basic
import Stagewise.Number.Layout

/-! Writing of JSON texts, on one line or over several. Characters beyond ASCII stand for
themselves. -/

namespace Stagewise

namespace Json

/-- A character inside a string. -/
def escapedChar (c : Char) : List Char :=
  if c = '"' then ['\\', '"']
  else if c = '\\' then ['\\', '\\']
  else if c = '\x08' then ['\\', 'b']
  else if c = '\x0c' then ['\\', 'f']
  else if c = '\n' then ['\\', 'n']
  else if c = '\r' then ['\\', 'r']
  else if c = '\t' then ['\\', 't']
  else if c.toNat < 0x20 then
    ['\\', 'u', '0', '0', Nat.digitChar (c.toNat / 16), Nat.digitChar (c.toNat % 16)]
  else [c]

def stringChars (s : String) : List Char :=
  '"' :: s.toList.flatMap escapedChar ++ ['"']

/-- From 0.00001 up to sixteen digits a double is written without an exponent, a whole one keeps its
point, and ties go to the even digit. -/
def floatLayout : DecimalLayout where
  tie := .even
  positional := some (-5, 15)
  wholeMark := ".0"

/-- A double; those that are no numbers have no text of their own. -/
def floatText (x : Float) : String :=
  match Dyad.ofFloat? x with
  | some d => floatLayout.writeDyad d
  | none => "null"

/-- Lists between brackets, parted by commas. -/
def bracketed (opening closing : Char) (parts : List (List Char)) : List Char :=
  opening :: (List.intercalate [','] parts) ++ [closing]

mutual

def chars : Json → List Char
  | .null => "null".toList
  | .bool b => (if b then "true" else "false").toList
  | .int i => (toString i).toList
  | .float x => (floatText x).toList
  | .text s => stringChars s
  | .array items => bracketed '[' ']' (itemChars items)
  | .object fields => bracketed '\x7b' '\x7d' (fieldChars fields)

def itemChars : List Json → List (List Char)
  | [] => []
  | item :: rest => item.chars :: itemChars rest

def fieldChars : List (String × Json) → List (List Char)
  | [] => []
  | (name, value) :: rest => (stringChars name ++ ':' :: value.chars) :: fieldChars rest

end

/-- The value as a text on one line. -/
def compact (json : Json) : String :=
  String.ofList json.chars

def newline (level : Nat) : List Char :=
  '\n' :: List.replicate (2 * level) ' '

/-- Parts on lines of their own, two columns further in than the brackets around them. -/
def indented (opening closing : Char) (level : Nat) (parts : List (List Char)) : List Char :=
  if parts.isEmpty then [opening, closing]
  else
    opening :: newline (level + 1) ++ List.intercalate (',' :: newline (level + 1)) parts ++
      newline level ++ [closing]

mutual

def prettyChars (level : Nat) : Json → List Char
  | .array items => indented '[' ']' level (prettyItems (level + 1) items)
  | .object fields => indented '\x7b' '\x7d' level (prettyFields (level + 1) fields)
  | scalar => scalar.chars

def prettyItems (level : Nat) : List Json → List (List Char)
  | [] => []
  | item :: rest => item.prettyChars level :: prettyItems level rest

def prettyFields (level : Nat) : List (String × Json) → List (List Char)
  | [] => []
  | (name, value) :: rest =>
    (stringChars name ++ ':' :: ' ' :: value.prettyChars level) :: prettyFields level rest

end

/-- The value as a text with one item or field a line. -/
def pretty (json : Json) : String :=
  String.ofList (json.prettyChars 0)

end Json

end Stagewise
