import SqlBuilder.Text.Basic

/-!
White space in the sense of Unicode's `White_Space` property, and trimming.
-/

namespace SqlBuilder.Text

/-- The characters with the `White_Space` property.  The zero-width space, the
byte order mark and the information separators do not have it. -/
def isBlank (c : Char) : Bool :=
  let code := c.toNat
  (0x09 ≤ code && code ≤ 0x0D) || code == 0x20 || code == 0x85 || code == 0xA0 ||
    code == 0x1680 || (0x2000 ≤ code && code ≤ 0x200A) || code == 0x2028 ||
    code == 0x2029 || code == 0x202F || code == 0x205F || code == 0x3000

/-- The text without the white space at its two ends. -/
def trimmed (text : Text) : Text :=
  ((text.dropWhile isBlank).reverse.dropWhile isBlank).reverse

example : trimmed "\u3000 a b\t" = "a b" := by decide
example : trimmed "\u200ba" = "\u200ba" := by decide

end SqlBuilder.Text
