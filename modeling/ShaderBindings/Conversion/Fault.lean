/-!
# Failed conversions

Why a value cannot be converted to the type of a uniform.
-/

namespace ShaderBindings.Conversion

/-- The lengths along each axis, as a tuple. -/
def shapeText : List Nat → String
  | [n] => s!"({n},)"
  | shape => "(" ++ ", ".intercalate (shape.map toString) ++ ")"

/-- Why a conversion failed. -/
inductive Fault
  /-- The value has another type. -/
  | expected (type found : String)
  /-- An integer does not fit in a word. -/
  | outOfRange (n : Int)
  /-- An integer has too many digits to be written in a message. -/
  | unprintable (n : Int)
  /-- A text stands where an array was expected. -/
  | expectedArray (shape : List Nat)
  /-- An array has another shape. -/
  | wrongShape (expected found : List Nat)
  /-- The items of a list differ in shape. -/
  | ragged
  /-- Lists are nested too deeply. -/
  | tooDeep
  /-- An element is no number. -/
  | notNumeric
  /-- A text writes no number. -/
  | badNumeral
  /-- Not-a-number stands where an integer was expected. -/
  | notANumber
  /-- A number is too large for the type of an element. -/
  | overflow
  deriving DecidableEq, Repr

/-- The categories of faults: the value has the wrong type, or is a wrong value
of the right type, or is out of the range of arithmetic. -/
inductive Fault.Category
  | type
  | value
  | range
  deriving DecidableEq, Repr

namespace Fault

/-- The category of a fault. -/
def category : Fault → Category
  | expected .. | expectedArray _ | notNumeric => .type
  | outOfRange _ | unprintable _ | wrongShape .. | ragged | tooDeep
  | badNumeral | notANumber => .value
  | overflow => .range

/-- The words for a fault. -/
def message : Fault → String
  | expected type found => s!"Expected {type}, got {found}"
  | outOfRange n => s!"{n} is out of range for an unsigned int"
  | unprintable _ => "the integer has too many digits"
  | expectedArray shape =>
    s!"Expected an array of shape {shapeText shape}, got a string"
  | wrongShape shape found =>
    s!"Expected shape {shapeText shape}, got {shapeText found}"
  | ragged => "the items of a list differ in shape"
  | tooDeep => "lists are nested too deeply"
  | notNumeric => "an element is no number"
  | badNumeral => "a text writes no number"
  | notANumber => "not-a-number is no integer"
  | overflow => "a number is too large"

/-- The message is the program's own wording, and not only a paraphrase. -/
def hasWording : Fault → Bool
  | expected .. | outOfRange _ | expectedArray _ | wrongShape .. => true
  | _ => false

end Fault

end ShaderBindings.Conversion
