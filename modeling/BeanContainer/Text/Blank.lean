/-!
# Blank characters

The characters that separate tokens: white space, and the two directional marks.
-/

namespace BeanContainer.Text

/-- White space, or one of the left-to-right and right-to-left marks. -/
def isBlank (c : Char) : Bool :=
  (0x09 ≤ c.toNat && c.toNat ≤ 0x0D) || c == ' ' || c.toNat == 0x85 || c.toNat == 0xA0 ||
    c.toNat == 0x1680 || (0x2000 ≤ c.toNat && c.toNat ≤ 0x200A) || c.toNat == 0x200E ||
    c.toNat == 0x200F || c.toNat == 0x2028 || c.toNat == 0x2029 || c.toNat == 0x202F ||
    c.toNat == 0x205F || c.toNat == 0x3000

end BeanContainer.Text
