/-!
# Blank characters

The white space of Unicode, and the removal of it from the end of a text.
-/

namespace ShaderBindings.Text

/-- White space: the line breaks and separators of ASCII, the next-line
control, and the space separators of Unicode. The zero-width characters are
not among them. -/
def isBlank (c : Char) : Bool :=
  let n := c.toNat
  (9 ≤ n && n ≤ 13) || (0x1c ≤ n && n ≤ 0x20) || n == 0x85 || n == 0xa0 ||
  n == 0x1680 || (0x2000 ≤ n && n ≤ 0x200a) || n == 0x2028 || n == 0x2029 ||
  n == 0x202f || n == 0x205f || n == 0x3000

/-- The text without the blanks at its end. -/
def trimEnd (s : String) : String :=
  .ofList (s.toList.reverse.dropWhile isBlank).reverse

end ShaderBindings.Text
