/-! Membership of a character in a table of code point ranges. Tables hold no ASCII, so an ASCII
character is answered without looking. -/

namespace Stagewise

def inRanges (table : Array (Nat × Nat)) (c : Char) : Bool :=
  0x80 ≤ c.toNat && table.any fun range => range.1 ≤ c.toNat && c.toNat ≤ range.2

theorem inRanges_eq_false_of_ascii (table : Array (Nat × Nat)) {c : Char} (h : c.toNat < 0x80) :
    inRanges table c = false := by
  simp [inRanges, show ¬ 0x80 ≤ c.toNat by omega]

end Stagewise
