import ShaderBindings.Text.Utf8

/-!
# Texts from outside

A text as it comes from a driver or an operating system: characters, or bytes
that should be UTF-8.
-/

namespace ShaderBindings

/-- A text as it is handed out. -/
inductive RawText
  | text (s : String)
  | bytes (bs : List UInt8)
  deriving DecidableEq, Repr

/-- The text, ill-formed bytes being replaced. -/
def RawText.decoded : RawText → String
  | text s => s
  | bytes bs => Text.Utf8.decodeReplacing bs

end ShaderBindings
