/-!
# Character classes as ranges

A class of characters beyond ASCII is a list of closed ranges of code points, written in ascending
order. The class modules beside this one only supply such a list.
-/

namespace BeanContainer.Text

/-- A closed range of code points. -/
abbrev CodeRange := Nat × Nat

/-- Whether the code point of the character lies in one of the ranges. -/
def inRanges (ranges : Array CodeRange) (c : Char) : Bool :=
  ranges.any fun range => range.1 ≤ c.toNat && c.toNat ≤ range.2

end BeanContainer.Text
