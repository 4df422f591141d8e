/-! Blank space: the Unicode property White_Space, and the trimming of texts. -/

namespace Stagewise

/-- A character with the property White_Space. -/
def isBlank (c : Char) : Bool :=
  let n := c.toNat
  (0x9 ≤ n && n ≤ 0xd) || n == 0x20 || n == 0x85 || n == 0xa0 || n == 0x1680 ||
    (0x2000 ≤ n && n ≤ 0x200a) || n == 0x2028 || n == 0x2029 || n == 0x202f || n == 0x205f ||
    n == 0x3000

/-- The characters without the blanks at either end. -/
def trimBlanks (cs : List Char) : List Char :=
  ((cs.dropWhile isBlank).reverse.dropWhile isBlank).reverse

/-- The text without the blanks at either end. -/
def trimmed (s : String) : String :=
  String.ofList (trimBlanks s.toList)

/-- A text with nothing in it but blanks. -/
def isBlankText (s : String) : Bool :=
  s.toList.all isBlank

end Stagewise
