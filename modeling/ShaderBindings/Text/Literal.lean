import ShaderBindings.Text.Hex
import ShaderBindings.Text.Printable

/-!
# Quoted literals

A text as a literal of the generated language: on one line, between quotes,
with everything escaped that a reader of the literal would not see as itself.
-/

namespace ShaderBindings.Text

/-- Single quotes, unless the text has a single quote and no double one. -/
def quoteMark (text : List Char) : Char :=
  if text.contains '\'' && !text.contains '"' then '"' else '\''

/-- A character inside a literal delimited by `mark`: the backslash and the
mark are escaped, three controls by their letter, and what is not printable by
its code point in two, four or eight digits. -/
def escapeChar (mark c : Char) : List Char :=
  if c == '\\' || c == mark then ['\\', c]
  else if c == '\n' then ['\\', 'n']
  else if c == '\r' then ['\\', 'r']
  else if c == '\t' then ['\\', 't']
  else if isPrintable c then [c]
  else if c.toNat < 0x100 then '\\' :: 'x' :: hexDigits 2 c.toNat
  else if c.toNat < 0x10000 then '\\' :: 'u' :: hexDigits 4 c.toNat
  else '\\' :: 'U' :: hexDigits 8 c.toNat

/-- The literal of a text. -/
def literal (s : String) : String :=
  let mark := quoteMark s.toList
  .ofList (mark :: s.toList.flatMap (escapeChar mark) ++ [mark])

end ShaderBindings.Text
