/-!
# Binary floating point

The interchange formats of binary floating point, as bits. A number is read
from its bits exactly, as a mantissa and a power of two, and written by rounding
an exact quotient to the nearest number of the format, a tie going to the even
mantissa.
-/

namespace ShaderBindings.Number

/-- A format, by the widths of its two stored fields. -/
structure BinaryFormat where
  fractionBits : Nat
  exponentBits : Nat
  deriving DecidableEq, Repr

namespace BinaryFormat

/-- Sixteen bits. -/
def half : BinaryFormat := ⟨10, 5⟩

/-- Thirty-two bits. -/
def single : BinaryFormat := ⟨23, 8⟩

/-- Sixty-four bits. -/
def double : BinaryFormat := ⟨52, 11⟩

/-- The bits of a number: its sign, its exponent and its fraction. -/
def width (f : BinaryFormat) : Nat :=
  f.exponentBits + f.fractionBits + 1

/-- The least exponent a mantissa of the format is scaled by. -/
def lowest (f : BinaryFormat) : Int :=
  2 - Nat.pow 2 (f.exponentBits - 1) - f.fractionBits

/-- The bits of infinity. Finite magnitudes have smaller codes, in order. -/
def infinityCode (f : BinaryFormat) : Nat :=
  (Nat.pow 2 f.exponentBits - 1) * Nat.pow 2 f.fractionBits

end BinaryFormat

/-- A number of a format. -/
structure Binary (f : BinaryFormat) where
  bits : BitVec f.width
  deriving DecidableEq, Repr

/-- What bits stand for: a finite value is `mantissa * 2 ^ exponent`. -/
inductive Datum
  | nan
  | infinite (negative : Bool)
  | finite (negative : Bool) (mantissa : Nat) (exponent : Int)
  deriving DecidableEq, Repr

/-- The integer nearest to `n / d`, the even one of two. -/
def roundQuotient (n d : Nat) : Nat :=
  let q := n / d
  let r := n % d
  if 2 * r < d || (2 * r == d && q % 2 == 0) then q else q + 1

/-- The integer nearest to `n / d` divided by `2 ^ e`. -/
def roundScaled (n d : Nat) (e : Int) : Nat :=
  if 0 ≤ e then roundQuotient n (d * Nat.pow 2 e.toNat)
  else roundQuotient (n * Nat.pow 2 (-e).toNat) d

/-- The greatest `e` with `2 ^ e ≤ n / d`, for positive `n` and `d`. -/
def binaryOrder (n d : Nat) : Int :=
  let e : Int := (n.log2 : Int) - d.log2
  let reached :=
    if 0 ≤ e then d * Nat.pow 2 e.toNat ≤ n else d ≤ n * Nat.pow 2 (-e).toNat
  if reached then e else e - 1

namespace Binary

variable {f : BinaryFormat}

/-- The number with a sign and the code of a magnitude. -/
def ofCode (negative : Bool) (code : Nat) : Binary f :=
  ⟨.ofNat _ (if negative then Nat.pow 2 (f.width - 1) + code else code)⟩

/-- The not-a-number without sign or payload. -/
def nan : Binary f :=
  ofCode false (f.infinityCode + Nat.pow 2 (f.fractionBits - 1))

/-- Infinity with a sign. -/
def infinity (negative : Bool) : Binary f :=
  ofCode negative f.infinityCode

/-- The number nearest to `± n / d`; beyond the greatest finite number it is
infinity. The code of a rounded mantissa counts the mantissas below it, so a
carry into the next exponent needs no care. -/
def ofRatio (negative : Bool) (n d : Nat) : Binary f :=
  if n == 0 || d == 0 then ofCode negative 0
  else
    let e := max (binaryOrder n d - f.fractionBits) f.lowest
    let code :=
      (e - f.lowest).toNat * Nat.pow 2 f.fractionBits + roundScaled n d e
    ofCode negative (min code f.infinityCode)

/-- The number nearest to an integer. -/
def ofInt (n : Int) : Binary f :=
  ofRatio (n < 0) n.natAbs 1

/-- The number nearest to `± digits * 10 ^ exponent`. Far beyond the range of
every format the power of ten is not computed. -/
def ofDecimal (negative : Bool) (digits : Nat) (exponent : Int) : Binary f :=
  if digits == 0 then ofCode negative 0
  else if exponent > 400 then infinity negative
  else if exponent < -401 - digits.log2 then ofCode negative 0
  else if 0 ≤ exponent then
    ofRatio negative (digits * Nat.pow 10 exponent.toNat) 1
  else ofRatio negative digits (Nat.pow 10 (-exponent).toNat)

/-- What the bits stand for. -/
def datum (x : Binary f) : Datum :=
  let magnitude := x.bits.toNat % Nat.pow 2 (f.width - 1)
  let negative := x.bits.toNat / Nat.pow 2 (f.width - 1) == 1
  let e := magnitude / Nat.pow 2 f.fractionBits
  let m := magnitude % Nat.pow 2 f.fractionBits
  if magnitude > f.infinityCode then .nan
  else if magnitude == f.infinityCode then .infinite negative
  else if e == 0 then .finite negative m f.lowest
  else .finite negative (Nat.pow 2 f.fractionBits + m) (f.lowest + e - 1)

/-- The number of the format nearest to a datum. -/
def ofDatum : Datum → Binary f
  | .nan => nan
  | .infinite negative => infinity negative
  | .finite negative m e =>
    if 0 ≤ e then ofRatio negative (m * Nat.pow 2 e.toNat) 1
    else ofRatio negative m (Nat.pow 2 (-e).toNat)

/-- The nearest number of another format. -/
def convert (g : BinaryFormat) (x : Binary f) : Binary g :=
  ofDatum x.datum

/-- Neither zero nor minus zero. -/
def isNonzero (x : Binary f) : Bool :=
  x.bits.toNat % Nat.pow 2 (f.width - 1) != 0

/-- Neither infinite nor not-a-number. -/
def isFinite (x : Binary f) : Bool :=
  match x.datum with
  | .finite .. => true
  | _ => false

end Binary

/-- The integer part of `± m * 2 ^ e`, towards zero. -/
def truncateScaled (negative : Bool) (m : Nat) (e : Int) : Int :=
  let n : Nat :=
    if 0 ≤ e then m * Nat.pow 2 e.toNat else m / Nat.pow 2 (-e).toNat
  if negative then -n else n

/-- The integer congruent to `n` that a word of `width` bits holds. -/
def wrap (signed : Bool) (width : Nat) (n : Int) : Int :=
  let r := n % Nat.pow 2 width
  if signed && Nat.pow 2 (width - 1) ≤ r then r - Nat.pow 2 width else r

/-- The range of a word of `width` bits. -/
def fits (signed : Bool) (width : Nat) (n : Int) : Bool :=
  if signed then -(Nat.pow 2 (width - 1)) ≤ n && n < Nat.pow 2 (width - 1)
  else 0 ≤ n && n < Nat.pow 2 width

end ShaderBindings.Number
