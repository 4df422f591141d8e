import Stagewise.Text.Unprintable

/-! Quoted text: a text between double quotes in which the quote, the backslash and everything that
would not show as itself is written as an escape. -/

namespace Stagewise

/-- A code point in lower-case hexadecimal digits. -/
def hexDigits (c : Char) : List Char :=
  Nat.toDigits 16 c.toNat

def quotedChar (c : Char) : List Char :=
  if c = '\x00' then ['\\', '0']
  else if c = '\t' then ['\\', 't']
  else if c = '\r' then ['\\', 'r']
  else if c = '\n' then ['\\', 'n']
  else if c = '\\' then ['\\', '\\']
  else if c = '"' then ['\\', '"']
  else if isUnprintable c then ['\\', 'u', '\x7b'] ++ hexDigits c ++ ['\x7d']
  else [c]

def quoted (s : String) : String :=
  String.ofList ('"' :: s.toList.flatMap quotedChar ++ ['"'])

end Stagewise
