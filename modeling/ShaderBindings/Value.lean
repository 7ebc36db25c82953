import ShaderBindings.Number.Array
import ShaderBindings.Texture

/-!
# Values

The values that a caller may assign to a uniform. Only some of them can be
converted to the type of the uniform; the others are part of the domain, since
each is refused in its own way.

Not among them are complex numbers, arrays of complex numbers, of texts, of
dates, of records or of objects, dictionaries with keys that are no texts, and
objects of other types, which may have conversions of their own. What is said of
every value is said of those that are.
-/

namespace ShaderBindings

/-- A value of the calling program: one of the basic types, a texture, a
fraction, or a number or an array whose elements are booleans, integers of a
width or binary floating-point numbers of a format. -/
inductive Value
  | none
  | bool (b : Bool)
  | int (n : Int)
  | float (x : Number.Binary .double)
  | text (s : String)
  | bytes (bs : List UInt8)
  | list (items : List Value)
  | tuple (items : List Value)
  | dict (entries : List (String × Value))
  | texture (t : Texture)
  /-- A fraction, by its numerator and its positive denominator. -/
  | fraction (numerator : Int) (denominator : Nat)
  /-- A single number of an array type. -/
  | scalar (element : Number.ElementType) (x : element.Carrier)
  | array (a : Number.Array)

namespace Value

instance : Inhabited Value := ⟨none⟩

/-- The name of a value's type. -/
def typeName : Value → String
  | none => "NoneType"
  | bool _ => "bool"
  | int _ => "int"
  | float _ => "float"
  | text _ => "str"
  | bytes _ => "bytes"
  | list _ => "list"
  | tuple _ => "tuple"
  | dict _ => "dict"
  | texture _ => "Texture"
  | fraction _ _ => "Fraction"
  | scalar element _ => element.name
  | array _ => "ndarray"

/-- The name of a value's type with the library that it belongs to. -/
def qualifiedTypeName : Value → String
  | scalar element _ => "numpy." ++ element.name
  | array _ => "numpy.ndarray"
  | v => v.typeName

end Value

end ShaderBindings
