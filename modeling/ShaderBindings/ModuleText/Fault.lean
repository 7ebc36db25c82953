import ShaderBindings.Text.Escape

/-!
# Faults of a module text

Why the text of a module cannot be loaded. The documentation of the class names
its variables just as they are, so it is there that a text goes wrong.
-/

namespace ShaderBindings.ModuleText

/-- What a reader of the text stumbles over. -/
inductive Problem
  /-- A literal on one line that is still open at the end of a line. -/
  | openLiteral (line : Nat)
  /-- A literal over several lines that is still open at the end. -/
  | openLongLiteral (line : Nat)
  | escape (fault : Text.EscapeFault)
  /-- Literals of characters and of bytes side by side. -/
  | mixedLiterals
  | unmatched (bracket : Char)
  /-- A bracket closed by one of another kind; the line of the first, if it is
  another line. -/
  | mismatched (closing opening : Char) (line : Option Nat)
  | neverClosed (bracket : Char)
  | afterBackslash
  | invalidCharacter (c : Char)
  | unprintableCharacter (c : Char)
  | invalidNumber
  | leadingZeros
  /-- A line that is indented less than the ones before, but not like any line
  before those. -/
  | unindented
  /-- A line that is indented more than the ones before, without a reason. -/
  | unexpectedIndent
  /-- A type is given for something that cannot have one. -/
  | wronglyTyped
  /-- The name of the class is a constant of the language. -/
  | constantName (name : String)
  /-- Something that does not belong where it is. -/
  | misplaced
  deriving DecidableEq, Repr

/-- The code point of a character as it is written in messages. -/
def codePointText (c : Char) : String :=
  .ofList ('U' :: '+' :: (Text.hexPadded 4 c.toNat).toList.map Char.toUpper)

/-- A reader who has already stumbled over something else, and only looks
through what is left, does not tell of this problem. -/
def Problem.isQuiet : Problem → Bool
  | afterBackslash | unindented | neverClosed _ => true
  | _ => false

/-- The words for a problem. -/
def Problem.message : Problem → String
  | openLiteral line =>
    s!"unterminated string literal (detected at line {line})"
  | openLongLiteral line =>
    s!"unterminated triple-quoted string literal (detected at line {line})"
  | escape fault => s!"(unicode error) {fault.message}"
  | mixedLiterals => "cannot mix bytes and nonbytes literals"
  | unmatched bracket => s!"unmatched '{bracket}'"
  | mismatched closing opening line =>
    let place :=
      match line with
      | some n => s!" on line {n}"
      | none => ""
    s!"closing parenthesis '{closing}' does not match opening " ++
      s!"parenthesis '{opening}'" ++ place
  | neverClosed bracket => s!"'{bracket}' was never closed"
  | afterBackslash => "unexpected character after line continuation character"
  | invalidCharacter c => s!"invalid character '{c}' ({codePointText c})"
  | unprintableCharacter c =>
    s!"invalid non-printable character {codePointText c}"
  | invalidNumber => "invalid decimal literal"
  | leadingZeros =>
    "leading zeros in decimal integer literals are not permitted; " ++
      "use an 0o prefix for octal integers"
  | unindented => "unindent does not match any outer indentation level"
  | unexpectedIndent => "unexpected indent"
  | wronglyTyped => "illegal target for annotation"
  | constantName name => s!"cannot assign to {name}"
  | misplaced => "invalid syntax"

/-- Why the text of a module cannot be loaded. -/
inductive Fault
  | nullCharacter
  | unreadable (problem : Problem) (line : Nat)
  deriving DecidableEq, Repr

/-- The words for a fault. -/
def Fault.message : Fault → String
  | nullCharacter => "source code string cannot contain null bytes"
  | unreadable problem line =>
    s!"{problem.message} (<generated>, line {line})"

end ShaderBindings.ModuleText
