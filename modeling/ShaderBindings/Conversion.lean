import ShaderBindings.Conversion.Array
import ShaderBindings.UniformType

/-!
# Conversion of assigned values

A converter takes any value and gives it in the form that drawing needs, or
says why it cannot.
-/

namespace ShaderBindings

open Number

/-- A value in the form that drawing needs. -/
inductive Stored
  | bool (b : Bool)
  | int (n : Int)
  | float (x : Binary .double)
  | texture (t : Texture)
  | array (a : Number.Array)
  deriving DecidableEq

/-- The stored value as a value of the calling program. -/
def Stored.value : Stored → Value
  | bool b => .bool b
  | int n => .int n
  | float x => .float x
  | texture t => .texture t
  | array a => .array a

/-- A converter. -/
inductive Converter
  | bool
  | int
  | uint
  | float
  | texture
  | array (shape : List Nat) (element : ElementType)
  deriving DecidableEq, Repr

namespace Conversion

/-- Truth values, and the integers zero and one. -/
def toBool (v : Value) : Except Fault Bool :=
  match v with
  | .bool b | .scalar .bool b => .ok b
  | .int n | .scalar (.int _ _) n =>
    if n = 0 then .ok false
    else if n = 1 then .ok true
    else .error (.expected "bool" v.typeName)
  | _ => .error (.expected "bool" v.typeName)

/-- Integers. A truth value is none. -/
def toInt (v : Value) : Except Fault Int :=
  match v with
  | .int n | .scalar (.int _ _) n => .ok n
  | _ => .error (.expected "int" v.typeName)

/-- Integers that an unsigned word holds. -/
def toUint (v : Value) : Except Fault Int := do
  let n ← toInt v
  if 0 ≤ n ∧ n < Nat.pow 2 32 then return n
  else if n.natAbs < Nat.pow 10 Text.maxIntegerDigits then
    .error (.outOfRange n)
  else .error (.unprintable n)

/-- Real numbers, as doubles. A truth value is none. -/
def toFloat (v : Value) : Except Fault (Binary .double) :=
  match v with
  | .int n | .scalar (.int _ _) n => doubleOfInt n
  | .float x => .ok x
  | .scalar (.float _) x => .ok (Binary.convert .double x)
  | .fraction n d => doubleOfFraction n d
  | _ => .error (.expected "float" v.typeName)

/-- Textures. -/
def toTexture (v : Value) : Except Fault Texture :=
  match v with
  | .texture t => .ok t
  | _ => .error (.expected "Texture" v.typeName)

end Conversion

namespace Converter

open Conversion

/-- The name of a converter. -/
def name : Converter → String
  | bool => "to_bool"
  | int => "to_int"
  | uint => "to_uint"
  | float => "to_float"
  | texture => "to_texture"
  | array shape t =>
    let lengths := "x".intercalate (shape.map toString)
    s!"array_of_{lengths}_{t.name}"

/-- Converts a value. -/
def convert : Converter → Value → Except Fault Stored
  | bool, v => (toBool v).map .bool
  | int, v => (toInt v).map .int
  | uint, v => (toUint v).map .int
  | float, v => (toFloat v).map .float
  | texture, v => (toTexture v).map .texture
  | array shape t, v => (toArrayOf shape t v).map .array

end Converter

/-- The type of the elements of arrays of a scalar type. -/
def Scalar.element : Scalar → ElementType
  | bool => .bool
  | int => .int32
  | uint => .uint32
  | float => .float32
  | double => .float64

namespace UniformType

/-- The converter of a scalar type. -/
def scalarConverter : Scalar → Converter
  | .bool => .bool
  | .int => .int
  | .uint => .uint
  | .float | .double => .float

/-- The converter of a uniform type. -/
def converter : UniformType → Converter
  | scalar s => scalarConverter s
  | vector n e => .array [n.toNat] e.element
  | matrix r c e => .array [r.toNat, c.toNat] e.scalar.element
  | texture => .texture

/-- The value a uniform of a scalar type starts with. -/
def scalarDefault : Scalar → Stored
  | .bool => .bool false
  | .int | .uint => .int 0
  | .float | .double => .float (.ofCode false 0)

/-- The value a uniform starts with: false, zero, zeros, or no texture. -/
def defaultValue : UniformType → Stored
  | scalar s => scalarDefault s
  | vector n e => .array (.zeros e.element [n.toNat])
  | matrix r c e => .array (.zeros e.scalar.element [r.toNat, c.toNat])
  | texture => .texture {}

end UniformType

end ShaderBindings
