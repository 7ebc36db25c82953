/-!
# Hexadecimal numerals

Numbers in base sixteen, padded with zeros on the left.
-/

namespace ShaderBindings.Text

/-- The digits of `n` in base sixteen, `width` of them, most significant
first; higher digits are dropped. -/
def hexDigits : Nat → Nat → List Char
  | 0, _ => []
  | width + 1, n => hexDigits width (n / 16) ++ [Nat.digitChar (n % 16)]

/-- The digits of `n` in base sixteen, at least `width` of them. -/
def hexPadded (width n : Nat) : String :=
  let digits := Nat.toDigits 16 n
  .ofList (List.replicate (width - digits.length) '0' ++ digits)

end ShaderBindings.Text
