import ShaderBindings.Text.Identifier
import ShaderBindings.Text.NormalForm.Replacement
import ShaderBindings.Text.NormalForm.Table

/-!
# Normal form of identifiers

The generated language knows an identifier by its compatibility normal form:
characters that are variants of others are replaced, marks are put in the order
of their classes, and what can be joined into one character is joined.
-/

namespace ShaderBindings.Text

/-- The combining class of a character; zero if it is no mark. -/
def combiningClass (c : Char) : Nat :=
  match markRanges.find? fun (low, high, _) =>
      low ≤ c.toNat && c.toNat ≤ high with
  | some (_, _, k) => k
  | none => 0

/-! ## Taking apart -/

/-- The word that an entry of the table has for a character, if any. -/
def wordFor? (c : Char) : Nat × Nat × String → Option (List Char)
  | (low, high, text) =>
    if low ≤ c.toNat && c.toNat ≤ high then
      (text.toList.splitOn ' ')[c.toNat - low]?
    else none

/-- What is in the place of a character: itself, unless it is a variant of
others. -/
def replaced (c : Char) : List Char :=
  (replacements.findSome? (wordFor? c)).getD [c]

/-- The parts of a syllable of Hangul: a leading consonant, a vowel, and perhaps
a trailing consonant. -/
def hangulParts? (c : Char) : Option (List Char) :=
  let n := c.toNat - 0xac00
  if 0xac00 ≤ c.toNat && c.toNat ≤ 0xd7a3 then
    let trailing := n % 28
    some ([.ofNat (0x1100 + n / 588), .ofNat (0x1161 + n % 588 / 28)] ++
      if trailing = 0 then [] else [.ofNat (0x11a7 + trailing)])
  else none

/-- The last parts of a character, which is taken apart `depth` times at
most. -/
def partsOf : Nat → Char → List Char
  | 0, c => [c]
  | depth + 1, c =>
    match hangulParts? c, joinedCharacters.lookup c.toNat with
    | some parts, _ => parts
    | none, some (first, second) =>
      partsOf depth (.ofNat first) ++ [.ofNat second]
    | none, none => [c]

/-- Puts a mark before marks, after those of lower classes. -/
def insertMark (c : Char) : List Char → List Char
  | [] => [c]
  | d :: rest =>
    let k := combiningClass d
    if k ≠ 0 && k < combiningClass c then d :: insertMark c rest
    else c :: d :: rest

/-- Characters with the marks between bases in the order of their classes. -/
def orderMarks : List Char → List Char
  | [] => []
  | c :: rest =>
    if combiningClass c = 0 then c :: orderMarks rest
    else insertMark c (orderMarks rest)

/-! ## Joining -/

/-- The syllable of Hangul that two characters make: a leading consonant and a
vowel, or a syllable of these and a trailing consonant. -/
def joinHangul? (a b : Char) : Option Char :=
  let m := a.toNat
  let n := b.toNat
  if 0x1100 ≤ m && m ≤ 0x1112 && 0x1161 ≤ n && n ≤ 0x1175 then
    some (.ofNat (0xac00 + (m - 0x1100) * 588 + (n - 0x1161) * 28))
  else if 0xac00 ≤ m && m ≤ 0xd7a3 && (m - 0xac00) % 28 == 0 &&
      0x11a8 ≤ n && n ≤ 0x11c2 then
    some (.ofNat (m + (n - 0x11a7)))
  else none

/-- The character that two characters make. -/
def join? (a b : Char) : Option Char :=
  joinHangul? a b <|>
  (joinedCharacters.find? fun (_, first, second) =>
    first == a.toNat && second == b.toNat).map fun (c, _) => .ofNat c

/-- Joins what follows a base with it. `kept` are the marks after the base that
could not be joined, last first. A character can be joined if all that are kept
are of lower classes. -/
def joinAfter (base : Char) (kept : List Char) : List Char → List Char
  | [] => base :: kept.reverse
  | c :: rest =>
    let k := combiningClass c
    let free := kept.all fun d => combiningClass d < k
    match if free then join? base c else none with
    | some joined => joinAfter joined kept rest
    | none =>
      if k = 0 then base :: kept.reverse ++ joinAfter c [] rest
      else joinAfter base (c :: kept) rest

/-- The normal form of characters. -/
def normalize (cs : List Char) : List Char :=
  match orderMarks ((cs.flatMap replaced).flatMap (partsOf 4)) with
  | [] => []
  | c :: rest => joinAfter c [] rest

-- irreducible, for a definition that unfolds down to the tables would be
-- walked through whenever a name is compared
/-- The normal form of an identifier. One of ASCII is its own. -/
@[irreducible]
def normalForm (s : String) : String :=
  if s.toList.all (·.toNat < 0x80) then s else .ofList (normalize s.toList)

/-- An identifier that is its own normal form. -/
def isNormal (s : String) : Bool :=
  normalForm s == s

end ShaderBindings.Text
