import ShaderBindings.Text.Identifier.Start
import ShaderBindings.Text.Identifier.Continue

/-!
# Identifiers

An identifier starts with a letter or an underscore and goes on with letters,
digits, marks and underscores, in the sense of Unicode's `XID` properties. A
*name* is an identifier that the generated language does not reserve.
-/

namespace ShaderBindings.Text

/-- The code point of `c` lies in one of the ranges. -/
def inRanges (ranges : List (Nat × Nat)) (c : Char) : Bool :=
  ranges.any fun range => range.1 ≤ c.toNat && c.toNat ≤ range.2

/-- A character that may start an identifier. -/
def isIdentifierStart (c : Char) : Bool :=
  if c.toNat < 0x80 then c.isAlpha || c == '_' else inRanges startRanges c

/-- A character that may follow in an identifier. -/
def isIdentifierRest (c : Char) : Bool :=
  if c.toNat < 0x80 then c.isAlphanum || c == '_'
  else inRanges startRanges c || inRanges continueRanges c

/-- A non-empty text of identifier characters. -/
def isIdentifier (s : String) : Bool :=
  match s.toList with
  | [] => false
  | c :: rest => isIdentifierStart c && rest.all isIdentifierRest

/-- The words that the generated language keeps for itself. -/
def reservedWords : List String :=
  ["False", "None", "True", "and", "as", "assert", "async", "await", "break",
   "class", "continue", "def", "del", "elif", "else", "except", "finally",
   "for", "from", "global", "if", "import", "in", "is", "lambda", "nonlocal",
   "not", "or", "pass", "raise", "return", "try", "while", "with", "yield"]

/-- An identifier that is free to be used as a name. -/
def isName (s : String) : Bool :=
  isIdentifier s && !reservedWords.contains s

/-- A dotted sequence of names. -/
def isDottedName (s : String) : Bool :=
  (s.toList.splitOn '.').all fun part => isName (.ofList part)

/-- A letter of ASCII, a digit of ASCII or the underscore. -/
def isWordChar (c : Char) : Bool :=
  c.isAlphanum || c == '_'

end ShaderBindings.Text
