import ShaderBindings.UniformType

/-!
# Type tags

The tags by which OpenGL reports the types of active variables, and the uniform
type that each stands for. Images and atomic counters have tags but no uniform
type.
-/

namespace ShaderBindings

/-- What variables with a tag are. -/
inductive TagRole
  | uniform (type : UniformType)
  | image
  | counter
  deriving DecidableEq, Repr

/-- A type tag of OpenGL. -/
structure TypeTag where
  name : String
  code : Nat
  role : TagRole
  deriving DecidableEq, Repr

namespace TypeTag

/-- All tags. -/
def all : List TypeTag :=
  [ -- scalars
   ⟨"INT", 0x1404, .uniform (.scalar .int)⟩,
   ⟨"UNSIGNED_INT", 0x1405, .uniform (.scalar .uint)⟩,
   ⟨"FLOAT", 0x1406, .uniform (.scalar .float)⟩,
   ⟨"DOUBLE", 0x140A, .uniform (.scalar .double)⟩,
   ⟨"BOOL", 0x8B56, .uniform (.scalar .bool)⟩,
   -- vectors
   ⟨"FLOAT_VEC2", 0x8B50, .uniform (.vector .two .float)⟩,
   ⟨"FLOAT_VEC3", 0x8B51, .uniform (.vector .three .float)⟩,
   ⟨"FLOAT_VEC4", 0x8B52, .uniform (.vector .four .float)⟩,
   ⟨"INT_VEC2", 0x8B53, .uniform (.vector .two .int)⟩,
   ⟨"INT_VEC3", 0x8B54, .uniform (.vector .three .int)⟩,
   ⟨"INT_VEC4", 0x8B55, .uniform (.vector .four .int)⟩,
   ⟨"BOOL_VEC2", 0x8B57, .uniform (.vector .two .bool)⟩,
   ⟨"BOOL_VEC3", 0x8B58, .uniform (.vector .three .bool)⟩,
   ⟨"BOOL_VEC4", 0x8B59, .uniform (.vector .four .bool)⟩,
   ⟨"UNSIGNED_INT_VEC2", 0x8DC6, .uniform (.vector .two .uint)⟩,
   ⟨"UNSIGNED_INT_VEC3", 0x8DC7, .uniform (.vector .three .uint)⟩,
   ⟨"UNSIGNED_INT_VEC4", 0x8DC8, .uniform (.vector .four .uint)⟩,
   ⟨"DOUBLE_VEC2", 0x8FFC, .uniform (.vector .two .double)⟩,
   ⟨"DOUBLE_VEC3", 0x8FFD, .uniform (.vector .three .double)⟩,
   ⟨"DOUBLE_VEC4", 0x8FFE, .uniform (.vector .four .double)⟩,
   -- matrices
   ⟨"FLOAT_MAT2", 0x8B5A, .uniform (.matrix .two .two .float)⟩,
   ⟨"FLOAT_MAT3", 0x8B5B, .uniform (.matrix .three .three .float)⟩,
   ⟨"FLOAT_MAT4", 0x8B5C, .uniform (.matrix .four .four .float)⟩,
   ⟨"FLOAT_MAT2x3", 0x8B65, .uniform (.matrix .two .three .float)⟩,
   ⟨"FLOAT_MAT2x4", 0x8B66, .uniform (.matrix .two .four .float)⟩,
   ⟨"FLOAT_MAT3x2", 0x8B67, .uniform (.matrix .three .two .float)⟩,
   ⟨"FLOAT_MAT3x4", 0x8B68, .uniform (.matrix .three .four .float)⟩,
   ⟨"FLOAT_MAT4x2", 0x8B69, .uniform (.matrix .four .two .float)⟩,
   ⟨"FLOAT_MAT4x3", 0x8B6A, .uniform (.matrix .four .three .float)⟩,
   ⟨"DOUBLE_MAT2", 0x8F46, .uniform (.matrix .two .two .double)⟩,
   ⟨"DOUBLE_MAT3", 0x8F47, .uniform (.matrix .three .three .double)⟩,
   ⟨"DOUBLE_MAT4", 0x8F48, .uniform (.matrix .four .four .double)⟩,
   ⟨"DOUBLE_MAT2x3", 0x8F49, .uniform (.matrix .two .three .double)⟩,
   ⟨"DOUBLE_MAT2x4", 0x8F4A, .uniform (.matrix .two .four .double)⟩,
   ⟨"DOUBLE_MAT3x2", 0x8F4B, .uniform (.matrix .three .two .double)⟩,
   ⟨"DOUBLE_MAT3x4", 0x8F4C, .uniform (.matrix .three .four .double)⟩,
   ⟨"DOUBLE_MAT4x2", 0x8F4D, .uniform (.matrix .four .two .double)⟩,
   ⟨"DOUBLE_MAT4x3", 0x8F4E, .uniform (.matrix .four .three .double)⟩,
   -- float samplers
   ⟨"SAMPLER_1D", 0x8B5D, .uniform .texture⟩,
   ⟨"SAMPLER_2D", 0x8B5E, .uniform .texture⟩,
   ⟨"SAMPLER_3D", 0x8B5F, .uniform .texture⟩,
   ⟨"SAMPLER_CUBE", 0x8B60, .uniform .texture⟩,
   ⟨"SAMPLER_1D_SHADOW", 0x8B61, .uniform .texture⟩,
   ⟨"SAMPLER_2D_SHADOW", 0x8B62, .uniform .texture⟩,
   ⟨"SAMPLER_2D_RECT", 0x8B63, .uniform .texture⟩,
   ⟨"SAMPLER_2D_RECT_SHADOW", 0x8B64, .uniform .texture⟩,
   ⟨"SAMPLER_1D_ARRAY", 0x8DC0, .uniform .texture⟩,
   ⟨"SAMPLER_2D_ARRAY", 0x8DC1, .uniform .texture⟩,
   ⟨"SAMPLER_BUFFER", 0x8DC2, .uniform .texture⟩,
   ⟨"SAMPLER_1D_ARRAY_SHADOW", 0x8DC3, .uniform .texture⟩,
   ⟨"SAMPLER_2D_ARRAY_SHADOW", 0x8DC4, .uniform .texture⟩,
   ⟨"SAMPLER_CUBE_SHADOW", 0x8DC5, .uniform .texture⟩,
   ⟨"SAMPLER_CUBE_MAP_ARRAY", 0x900C, .uniform .texture⟩,
   ⟨"SAMPLER_CUBE_MAP_ARRAY_SHADOW", 0x900D, .uniform .texture⟩,
   ⟨"SAMPLER_2D_MULTISAMPLE", 0x9108, .uniform .texture⟩,
   ⟨"SAMPLER_2D_MULTISAMPLE_ARRAY", 0x910B, .uniform .texture⟩,
   -- integer samplers
   ⟨"INT_SAMPLER_1D", 0x8DC9, .uniform .texture⟩,
   ⟨"INT_SAMPLER_2D", 0x8DCA, .uniform .texture⟩,
   ⟨"INT_SAMPLER_3D", 0x8DCB, .uniform .texture⟩,
   ⟨"INT_SAMPLER_CUBE", 0x8DCC, .uniform .texture⟩,
   ⟨"INT_SAMPLER_2D_RECT", 0x8DCD, .uniform .texture⟩,
   ⟨"INT_SAMPLER_1D_ARRAY", 0x8DCE, .uniform .texture⟩,
   ⟨"INT_SAMPLER_2D_ARRAY", 0x8DCF, .uniform .texture⟩,
   ⟨"INT_SAMPLER_BUFFER", 0x8DD0, .uniform .texture⟩,
   ⟨"INT_SAMPLER_CUBE_MAP_ARRAY", 0x900E, .uniform .texture⟩,
   ⟨"INT_SAMPLER_2D_MULTISAMPLE", 0x9109, .uniform .texture⟩,
   ⟨"INT_SAMPLER_2D_MULTISAMPLE_ARRAY", 0x910C, .uniform .texture⟩,
   -- unsigned integer samplers
   ⟨"UNSIGNED_INT_SAMPLER_1D", 0x8DD1, .uniform .texture⟩,
   ⟨"UNSIGNED_INT_SAMPLER_2D", 0x8DD2, .uniform .texture⟩,
   ⟨"UNSIGNED_INT_SAMPLER_3D", 0x8DD3, .uniform .texture⟩,
   ⟨"UNSIGNED_INT_SAMPLER_CUBE", 0x8DD4, .uniform .texture⟩,
   ⟨"UNSIGNED_INT_SAMPLER_2D_RECT", 0x8DD5, .uniform .texture⟩,
   ⟨"UNSIGNED_INT_SAMPLER_1D_ARRAY", 0x8DD6, .uniform .texture⟩,
   ⟨"UNSIGNED_INT_SAMPLER_2D_ARRAY", 0x8DD7, .uniform .texture⟩,
   ⟨"UNSIGNED_INT_SAMPLER_BUFFER", 0x8DD8, .uniform .texture⟩,
   ⟨"UNSIGNED_INT_SAMPLER_CUBE_MAP_ARRAY", 0x900F, .uniform .texture⟩,
   ⟨"UNSIGNED_INT_SAMPLER_2D_MULTISAMPLE", 0x910A, .uniform .texture⟩,
   ⟨"UNSIGNED_INT_SAMPLER_2D_MULTISAMPLE_ARRAY", 0x910D, .uniform .texture⟩,
   -- images
   ⟨"IMAGE_1D", 0x904C, .image⟩,
   ⟨"IMAGE_2D", 0x904D, .image⟩,
   ⟨"IMAGE_3D", 0x904E, .image⟩,
   ⟨"IMAGE_2D_RECT", 0x904F, .image⟩,
   ⟨"IMAGE_CUBE", 0x9050, .image⟩,
   ⟨"IMAGE_BUFFER", 0x9051, .image⟩,
   ⟨"IMAGE_1D_ARRAY", 0x9052, .image⟩,
   ⟨"IMAGE_2D_ARRAY", 0x9053, .image⟩,
   ⟨"IMAGE_CUBE_MAP_ARRAY", 0x9054, .image⟩,
   ⟨"IMAGE_2D_MULTISAMPLE", 0x9055, .image⟩,
   ⟨"IMAGE_2D_MULTISAMPLE_ARRAY", 0x9056, .image⟩,
   ⟨"INT_IMAGE_1D", 0x9057, .image⟩,
   ⟨"INT_IMAGE_2D", 0x9058, .image⟩,
   ⟨"INT_IMAGE_3D", 0x9059, .image⟩,
   ⟨"INT_IMAGE_2D_RECT", 0x905A, .image⟩,
   ⟨"INT_IMAGE_CUBE", 0x905B, .image⟩,
   ⟨"INT_IMAGE_BUFFER", 0x905C, .image⟩,
   ⟨"INT_IMAGE_1D_ARRAY", 0x905D, .image⟩,
   ⟨"INT_IMAGE_2D_ARRAY", 0x905E, .image⟩,
   ⟨"INT_IMAGE_CUBE_MAP_ARRAY", 0x905F, .image⟩,
   ⟨"INT_IMAGE_2D_MULTISAMPLE", 0x9060, .image⟩,
   ⟨"INT_IMAGE_2D_MULTISAMPLE_ARRAY", 0x9061, .image⟩,
   ⟨"UNSIGNED_INT_IMAGE_1D", 0x9062, .image⟩,
   ⟨"UNSIGNED_INT_IMAGE_2D", 0x9063, .image⟩,
   ⟨"UNSIGNED_INT_IMAGE_3D", 0x9064, .image⟩,
   ⟨"UNSIGNED_INT_IMAGE_2D_RECT", 0x9065, .image⟩,
   ⟨"UNSIGNED_INT_IMAGE_CUBE", 0x9066, .image⟩,
   ⟨"UNSIGNED_INT_IMAGE_BUFFER", 0x9067, .image⟩,
   ⟨"UNSIGNED_INT_IMAGE_1D_ARRAY", 0x9068, .image⟩,
   ⟨"UNSIGNED_INT_IMAGE_2D_ARRAY", 0x9069, .image⟩,
   ⟨"UNSIGNED_INT_IMAGE_CUBE_MAP_ARRAY", 0x906A, .image⟩,
   ⟨"UNSIGNED_INT_IMAGE_2D_MULTISAMPLE", 0x906B, .image⟩,
   ⟨"UNSIGNED_INT_IMAGE_2D_MULTISAMPLE_ARRAY", 0x906C, .image⟩,
   -- atomic counters
   ⟨"UNSIGNED_INT_ATOMIC_COUNTER", 0x92DB, .counter⟩]

/-- The tag stands for a texture. -/
def isTexture (tag : TypeTag) : Bool :=
  tag.role == .uniform .texture

/-- The tag stands for no uniform type. -/
def isUnsupported (tag : TypeTag) : Bool :=
  tag.role == .image || tag.role == .counter

/-- The tag with this code. -/
def ofCode? (code : Int) : Option TypeTag :=
  all.find? fun tag => tag.code == code

end TypeTag

/-- The uniform type that a code stands for. -/
def UniformType.ofCode? (code : Int) : Option UniformType :=
  match TypeTag.ofCode? code with
  | some ⟨_, _, .uniform t⟩ => some t
  | _ => none

end ShaderBindings
