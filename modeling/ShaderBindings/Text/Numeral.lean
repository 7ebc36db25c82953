import ShaderBindings.Number.Binary
import ShaderBindings.Text.Blank
import ShaderBindings.Text.Digit

/-!
# Numerals

Reading numbers from text: integers, and decimal fractions with an exponent,
infinities and not-a-number. Single underscores may stand between digits.
-/

namespace ShaderBindings.Text

open Number

/-- The most digits an integer is read from or written with. -/
def maxIntegerDigits : Nat := 4300

/-- The blanks of ASCII that may surround a numeral. -/
def isNumeralBlank (c : Char) : Bool :=
  (9 ≤ c.toNat && c.toNat ≤ 13) || c == ' '

/-- The numeral without the blanks around it. -/
def stripNumeral (cs : List Char) : List Char :=
  ((cs.dropWhile isNumeralBlank).reverse.dropWhile isNumeralBlank).reverse

/-- A numeral in ASCII: beyond ASCII, blanks become spaces and the digits of
any script become those of ASCII; anything else stays and spoils the numeral. -/
def asciiNumeral (cs : List Char) : List Char :=
  cs.map fun c =>
    if c.toNat < 0x7f then c
    else if isBlank c then ' '
    else match digit? c with
      | some d => Nat.digitChar d
      | none => c

/-- The digits that go on after a digit, underscores left out, and the rest. -/
def moreDigits : List Char → List Char × List Char
  | [] => ([], [])
  | '_' :: c :: rest =>
    if c.isDigit then
      let (ds, after) := moreDigits rest
      (c :: ds, after)
    else ([], '_' :: c :: rest)
  | c :: rest =>
    if c.isDigit then
      let (ds, after) := moreDigits rest
      (c :: ds, after)
    else ([], c :: rest)

/-- The digits at the front, underscores left out, and the rest. -/
def takeDigits : List Char → List Char × List Char
  | [] => ([], [])
  | c :: rest =>
    if c.isDigit then
      let (ds, after) := moreDigits rest
      (c :: ds, after)
    else ([], c :: rest)

/-- The sign at the front, whether it is negative, and the rest. -/
def takeSign : List Char → Bool × List Char
  | '-' :: rest => (true, rest)
  | '+' :: rest => (false, rest)
  | rest => (false, rest)

/-- The integer that a stripped numeral writes. -/
def integerOfNumeral? (cs : List Char) : Option Int :=
  let (negative, rest) := takeSign (stripNumeral cs)
  match takeDigits rest with
  | (ds@(_ :: _), []) =>
    if ds.length ≤ maxIntegerDigits then
      let n : Int := digitsValue ds
      some (if negative then -n else n)
    else none
  | _ => none

/-- The exponent that ends a decimal numeral; zero if there is none. -/
def exponentOf? : List Char → Option Int
  | [] => some 0
  | c :: rest =>
    if c == 'e' || c == 'E' then
      let (negative, rest) := takeSign rest
      match takeDigits rest with
      | (ds@(_ :: _), []) =>
        let n : Int := digitsValue ds
        some (if negative then -n else n)
      | _ => none
    else none

/-- The number nearest to an unsigned decimal numeral. -/
def decimalOf? (negative : Bool) (cs : List Char) : Option (Binary .double) :=
  let (whole, rest) := takeDigits cs
  let (fraction, rest) :=
    match rest with
    | '.' :: rest => takeDigits rest
    | _ => ([], rest)
  if whole.isEmpty && fraction.isEmpty then none
  else (exponentOf? rest).map fun e =>
    .ofDecimal negative (digitsValue (whole ++ fraction)) (e - fraction.length)

/-- The number that a numeral writes: a decimal, an infinity or a
not-a-number, in any case of letters. -/
def numberOfNumeral? (cs : List Char) : Option (Binary .double) :=
  let (negative, rest) := takeSign (stripNumeral cs)
  let word := String.ofList (rest.map Char.toLower)
  if word == "inf" || word == "infinity" then some (.infinity negative)
  else if word == "nan" then some .nan
  else decimalOf? negative rest

/-- The integer that a text writes. -/
def integer? (s : String) : Option Int :=
  integerOfNumeral? (asciiNumeral s.toList)

/-- The number that a text writes. -/
def number? (s : String) : Option (Binary .double) :=
  numberOfNumeral? (asciiNumeral s.toList)

/-- Bytes as characters of the same codes. -/
def byteChars (bytes : List UInt8) : List Char :=
  bytes.map fun b => .ofNat b.toNat

end ShaderBindings.Text
