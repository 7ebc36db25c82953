import ShaderBindings.UniformType

/-!
# Uniform types in generated code

What generated code says about a uniform of each type: the declared
type and the first value of the field that holds it, the converter of assigned
values, and the call that passes the value to OpenGL.
-/

namespace ShaderBindings

namespace Scalar

/-- The type of the values, as a field is declared. -/
def valueType : Scalar → String
  | bool => "bool"
  | int | uint => "int"
  | float | double => "float"

/-- The expression for the first value of a field. -/
def firstValue : Scalar → String
  | bool => "False"
  | int | uint => "0"
  | float | double => "0.0"

/-- The expression for the converter of assigned values. -/
def converterText : Scalar → String
  | bool => "runtime.to_bool"
  | int => "runtime.to_int"
  | uint => "runtime.to_uint"
  | float | double => "runtime.to_float"

/-- The element type of arrays of this component. -/
def arrayElement : Scalar → String
  | bool => "np.bool_"
  | int => "np.int32"
  | uint => "np.uint32"
  | float => "np.float32"
  | double => "np.float64"

/-- The letters that end the names of the OpenGL calls for this component. -/
def callSuffix : Scalar → String
  | bool | int => "i"
  | uint => "ui"
  | float => "f"
  | double => "d"

end Scalar

namespace UniformType

/-- The shape of the arrays of a type, as a tuple. -/
def shapeText : UniformType → String
  | vector n _ => s!"({n},)"
  | matrix r c _ => s!"({r}, {c})"
  | scalar _ | texture => "()"

/-- The type of the values, as a field is declared. -/
def valueType : UniformType → String
  | scalar s => s.valueType
  | vector .. | matrix .. => "np.ndarray"
  | texture => "runtime.Texture"

/-- The expression for the first value of a field. -/
def firstValue (t : UniformType) : String :=
  match t with
  | scalar s => s.firstValue
  | vector _ e => s!"np.zeros({t.shapeText}, dtype={e.arrayElement})"
  | matrix _ _ e => s!"np.zeros({t.shapeText}, dtype={e.scalar.arrayElement})"
  | texture => "runtime.Texture()"

/-- The expression for the converter of assigned values. -/
def converterText (t : UniformType) : String :=
  match t with
  | scalar s => s.converterText
  | vector _ e => s!"runtime.array_of({t.shapeText}, {e.arrayElement})"
  | matrix _ _ e => s!"runtime.array_of({t.shapeText}, {e.scalar.arrayElement})"
  | texture => "runtime.to_texture"

/-- The name of the OpenGL call for matrices of a shape and a component. -/
def matrixCall (r c : Dim) (e : Precision) : String :=
  let shape := if r = c then s!"{r}" else s!"{r}x{c}"
  s!"glUniformMatrix{shape}{e.scalar.callSuffix}v"

/-- The statement that passes the value of the uniform `id` to OpenGL. A
texture has none: its unit is passed instead. -/
def drawText? (t : UniformType) (id : String) : Option String :=
  let location := s!"self._loc_{id}"
  let value := s!"self.uniform_{id}"
  match t with
  | scalar .bool => some s!"GL.glUniform1i({location}, int({value}))"
  | scalar s => some s!"GL.glUniform1{s.callSuffix}({location}, {value})"
  | vector n .bool =>
    some s!"GL.glUniform{n}iv({location}, 1, {value}.astype(np.int32))"
  | vector n e =>
    some s!"GL.glUniform{n}{e.callSuffix}v({location}, 1, {value})"
  | matrix r c e =>
    some (s!"GL.{matrixCall r c e}({location}, 1, self.transpose_matrix, " ++
      s!"{value})")
  | texture => none

end UniformType

end ShaderBindings
