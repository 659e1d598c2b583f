/-
# StatusIcon.Text.Blank -- characters that leave a blank

The characters with the Unicode property `White_Space`.  `Char.isWhitespace` will not do, since it
knows ASCII alone.
-/

set_option autoImplicit false

namespace StatusIcon.Text

/-- The property `White_Space`. -/
def isBlank (c : Char) : Bool :=
  let n := c.toNat
  (9 ≤ n && n ≤ 13) || n == 0x20 || n == 0x85 || n == 0xA0 || n == 0x1680 ||
    (0x2000 ≤ n && n ≤ 0x200A) || n == 0x2028 || n == 0x2029 || n == 0x202F || n == 0x205F ||
    n == 0x3000

end StatusIcon.Text
