import ShaderBindings.Conversion.Fault
import ShaderBindings.Text.Numeral
import ShaderBindings.Value

/-!
# Conversion of array elements

A value inside a list becomes a number of the array's type. Values of the
calling program are checked; numbers that come from another array are cast by
the rules of machine arithmetic. Between them are single numbers of a machine
type: signed integers are made of them as of any other value, and for all other
types they are cast.
-/

namespace ShaderBindings.Conversion

open Number

/-- The double nearest to an integer. -/
def doubleOfInt (n : Int) : Except Fault (Binary .double) :=
  let x : Binary .double := .ofInt n
  if x.isFinite then .ok x else .error .overflow

/-- The double nearest to a fraction. -/
def doubleOfFraction (n : Int) (d : Nat) : Except Fault (Binary .double) :=
  let x : Binary .double := .ofRatio (n < 0) n.natAbs d
  if x.isFinite then .ok x else .error .overflow

/-- The integer part of a double. -/
def integerPart (x : Binary .double) : Except Fault Int :=
  match x.datum with
  | .nan => .error .notANumber
  | .infinite _ => .error .overflow
  | .finite negative m e => .ok (truncateScaled negative m e)

/-- The integer that a number of a machine type stands for, its fraction being
cut off. -/
def integerOf : (s : ElementType) → s.Carrier → Except Fault Int
  | .bool, b => .ok (if b then 1 else 0)
  | .int _ _, n => .ok n
  | .float _, x => integerPart (Binary.convert .double x)

/-- An integer that fits in a word. -/
def word (signed : Bool) (width : Nat) (n : Int) : Except Fault Int :=
  if fits signed width n then .ok n else .error .overflow

/-- What a numeral writes, if it writes anything. -/
def numeral {α : Type} : Option α → Except Fault α
  | some a => .ok a
  | none => .error .badNumeral

/-- The double that a value stands for. What is missing is not-a-number. -/
def elementDouble : Value → Except Fault (Binary .double)
  | .none => .ok .nan
  | .bool b => .ok (.ofInt (if b then 1 else 0))
  | .int n => doubleOfInt n
  | .float x => .ok x
  | .text s => numeral (Text.number? s)
  | .bytes bs => numeral (Text.numberOfNumeral? (Text.byteChars bs))
  | .fraction n d => doubleOfFraction n d
  | .dict _ | .texture _ | .list _ | .tuple _ | .scalar .. | .array _ =>
    .error .notNumeric

/-- The integer that a value stands for, fractions being cut off. -/
def elementInt : Value → Except Fault Int
  | .bool b => .ok (if b then 1 else 0)
  | .int n => .ok n
  | .float x => integerPart x
  | .text s => numeral (Text.integer? s)
  | .bytes bs => numeral (Text.integerOfNumeral? (Text.byteChars bs))
  | .fraction n d => .ok (n.tdiv d)
  | .none | .dict _ | .texture _ | .list _ | .tuple _ | .scalar ..
  | .array _ => .error .notNumeric

/-- The truth of a value: nothing, zero and whatever is empty are false. -/
def elementTruth : Value → Bool
  | .none => false
  | .bool b => b
  | .int n => n != 0
  | .float x => x.isNonzero
  | .text s => s != ""
  | .bytes bs => !bs.isEmpty
  | .list items | .tuple items => !items.isEmpty
  | .dict entries => !entries.isEmpty
  | .texture _ => true
  | .fraction n _ => n != 0
  | .scalar t x => isNonzero t x
  | .array a => a.data.any (isNonzero a.element)

/-- The number of a type that a value of the calling program stands for. -/
def element : (t : ElementType) → Value → Except Fault t.Carrier
  | .bool, v => .ok (elementTruth v)
  | .int signed width, v => do word signed width (← elementInt v)
  | .float f, v => return (← elementDouble v).convert f

/-- A number of one machine type as an item of a list of numbers of another. -/
def scalarElement (s : ElementType) (x : s.Carrier) :
    (t : ElementType) → Except Fault t.Carrier
  | .int true width => do word true width (← integerOf s x)
  | t => .ok (cast s x t)

end ShaderBindings.Conversion
