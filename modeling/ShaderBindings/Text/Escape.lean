import ShaderBindings.Text.Hex

/-!
# Escapes

Reading the characters that a literal of the generated language stands for. A
fault is told by its place in the literal, every character beyond ASCII counting
as the eight-digit escape that it is first replaced by.
-/

namespace ShaderBindings.Text

/-- What is wrong with an escape. -/
inductive EscapeProblem
  /-- Too few digits for a code point. -/
  | truncated (letter : Char) (digits : Nat)
  | beyondUnicode
  | malformedName
  | unknownName
  deriving DecidableEq, Repr

/-- The words for a problem. -/
def EscapeProblem.message : EscapeProblem → String
  | truncated letter digits =>
    let places := String.ofList (List.replicate digits 'X')
    s!"truncated \\{letter}{places} escape"
  | beyondUnicode => "illegal Unicode character"
  | malformedName => "malformed \\N character escape"
  | unknownName => "unknown Unicode character name"

/-- A faulty escape: its first place and the one after its last. -/
structure EscapeFault where
  start : Nat
  stop : Nat
  problem : EscapeProblem
  deriving DecidableEq, Repr

/-- The words for a fault. -/
def EscapeFault.message (e : EscapeFault) : String :=
  s!"'unicodeescape' codec can't decode bytes in position {e.start}-" ++
    s!"{e.stop - 1}: {e.problem.message}"

/-- A character as an escape of eight digits. -/
def wideEscape (c : Char) : List Char :=
  '\\' :: 'U' :: hexDigits 8 c.toNat

/-- The body of a literal in ASCII. A backslash before a character beyond ASCII
stands for itself. -/
def toAscii : List Char → List Char
  | [] => []
  | '\\' :: c :: rest =>
    if c.toNat < 0x80 then '\\' :: c :: toAscii rest
    else "\\u005c".toList ++ wideEscape c ++ toAscii rest
  | c :: rest =>
    (if c.toNat < 0x80 then [c] else wideEscape c) ++ toAscii rest

/-- The value of a digit in base sixteen. -/
def hexValue? (c : Char) : Option Nat :=
  if c.isDigit then some (c.toNat - '0'.toNat)
  else if 'a' ≤ c && c ≤ 'f' then some (c.toNat - 'a'.toNat + 10)
  else if 'A' ≤ c && c ≤ 'F' then some (c.toNat - 'A'.toNat + 10)
  else none

/-- Reads up to `count` digits in base sixteen: their value, how many are
missing, and the rest. -/
def takeHex : Nat → Nat → List Char → Nat × Nat × List Char
  | 0, value, rest => (value, 0, rest)
  | count + 1, value, [] => (value, count + 1, [])
  | count + 1, value, c :: rest =>
    match hexValue? c with
    | some digit => takeHex count (16 * value + digit) rest
    | none => (value, count + 1, c :: rest)

/-- The value of one to three digits in base eight, and the rest. -/
def takeOctal : Nat → Nat → List Char → Nat × List Char
  | 0, value, rest => (value, rest)
  | _ + 1, value, [] => (value, [])
  | count + 1, value, c :: rest =>
    if '0' ≤ c && c ≤ '7' then
      takeOctal count (8 * value + (c.toNat - '0'.toNat)) rest
    else (value, c :: rest)

/-- The character of a letter after a backslash that is not itself a code
point. -/
def letterEscape? : Char → Option Char
  | '\\' => some '\\'
  | '\'' => some '\''
  | '"' => some '"'
  | 'a' => some '\x07'
  | 'b' => some '\x08'
  | 'f' => some '\x0c'
  | 'n' => some '\n'
  | 'r' => some '\r'
  | 't' => some '\t'
  | 'v' => some '\x0b'
  | _ => none

/-- How many digits follow a letter after a backslash. -/
def digitsAfter? : Char → Option Nat
  | 'x' => some 2
  | 'u' => some 4
  | 'U' => some 8
  | _ => none

/-- What one escape stands for, and how much follows it. Characters are not
known by name. `start` is the place of the backslash. -/
def readEscape (start : Nat) (c : Char) (rest : List Char) :
    Except EscapeFault (List Char × List Char) :=
  if c == '\n' then .ok ([], rest)
  else if let some d := letterEscape? c then .ok ([d], rest)
  else if '0' ≤ c && c ≤ '7' then
    let (value, rest) := takeOctal 3 0 (c :: rest)
    .ok ([.ofNat value], rest)
  else if let some digits := digitsAfter? c then
    let (value, missing, rest) := takeHex digits 0 rest
    let stop := start + 2 + (digits - missing)
    if missing > 0 then .error ⟨start, stop, .truncated c digits⟩
    else if value > 0x10ffff then .error ⟨start, stop, .beyondUnicode⟩
    else if value.isValidChar then .ok ([.ofNat value], rest)
    else .ok (['\ufffd'], rest)
  else if c == 'N' then
    match rest with
    | '{' :: more =>
      let (name, rest) := more.span (· != '}')
      let stop := start + 3 + name.length
      if rest.isEmpty || name.isEmpty then
        .error ⟨start, stop, .malformedName⟩
      else .error ⟨start, stop + 1, .unknownName⟩
    | _ => .error ⟨start, start + 2, .malformedName⟩
  else .ok (['\\', c], rest)

/-- Reads characters of ASCII from a place on. Every escape takes at least its
two characters, so there are no more steps than characters. -/
def readEscapes : Nat → Nat → List Char → Except EscapeFault (List Char)
  | 0, _, _ => .ok []
  | _ + 1, _, [] => .ok []
  | steps + 1, place, '\\' :: c :: rest =>
    match readEscape place c rest with
    | .error e => .error e
    | .ok (read, after) =>
      let place := place + 2 + (rest.length - after.length)
      (readEscapes steps place after).map (read ++ ·)
  | steps + 1, place, c :: rest =>
    (readEscapes steps (place + 1) rest).map (c :: ·)

/-- The text that the body of a literal stands for. -/
def unescape (body : List Char) : Except EscapeFault String :=
  let ascii := toAscii body
  (readEscapes ascii.length 0 ascii).map .ofList

end ShaderBindings.Text
