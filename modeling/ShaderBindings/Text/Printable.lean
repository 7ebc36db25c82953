import ShaderBindings.Text.Identifier
import ShaderBindings.Text.Printable.Table

/-!
# Printable characters

The characters that a quoted text shows as themselves.
-/

namespace ShaderBindings.Text

/-- A character with a printed form; of the separators only the space. -/
def isPrintable (c : Char) : Bool :=
  if c.toNat < 0x80 then 0x20 ≤ c.toNat && c.toNat < 0x7f
  else !inRanges unprintableRanges c

end ShaderBindings.Text
