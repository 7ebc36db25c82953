import ShaderBindings.Error
import ShaderBindings.Text.Digit
import ShaderBindings.Text.Numeral

/-!
# Reading versions

Two readers: one for a text that is a version and nothing else, and one that
finds the first version in any text, as drivers report it.
-/

namespace ShaderBindings.Version

open Text

/-- The number that a run of digits writes, unless it has too many. -/
def numberOfDigits (digits : List Char) : Except Error Int :=
  if digits.length ≤ maxIntegerDigits then .ok (digitsValue digits)
  else .error (.tooManyDigits digits.length)

/-- The version that two runs of digits write. -/
def ofDigits (major minor : List Char) : Except Error Version := do
  return ⟨← numberOfDigits major, ← numberOfDigits minor⟩

/-- The parts of a text between its dots. -/
def parts (s : String) : List (List Char) :=
  s.toList.splitOn '.'

/-- A part that is a number. -/
def isNumber (part : List Char) : Bool :=
  !part.isEmpty && part.all isDigit

/-- Reads `major.minor`, possibly followed by one or two more numbers. -/
def ofText (s : String) : Except Error Version :=
  let refused := .error (.argument s "expected a version like 3.3")
  match parts s with
  | major :: minor :: more =>
    if more.length ≤ 2 && (major :: minor :: more).all isNumber then
      ofDigits major minor
    else refused
  | _ => refused

/-- The runs of digits around the first dot that has digits on both sides.
`run` holds the digits just before the text, the last one first. -/
def findDigits (run : List Char) : List Char → Option (List Char × List Char)
  | [] => none
  | c :: rest =>
    if isDigit c then findDigits (c :: run) rest
    else
      let minor := rest.takeWhile isDigit
      if c == '.' && !run.isEmpty && !minor.isEmpty then
        some (run.reverse, minor)
      else findDigits [] rest

/-- The first version in a text. -/
def find? (s : String) : Except Error (Option Version) :=
  match findDigits [] s.toList with
  | none => .ok none
  | some (major, minor) => (ofDigits major minor).map some

end ShaderBindings.Version
