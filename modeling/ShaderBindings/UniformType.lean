/-!
# Uniform types

The types of uniform variables that bindings are generated for: scalars,
vectors and matrices, and textures. A `TypeDescriptor` spells a type out in
four fields, and also describes combinations that are no uniform type.
-/

namespace ShaderBindings

/-- A number of components. -/
inductive Dim
  | two
  | three
  | four
  deriving DecidableEq, Repr

namespace Dim

/-- All sizes, from the smallest. -/
def all : List Dim := [two, three, four]

/-- A size as a number. -/
def toNat : Dim → Nat
  | two => 2
  | three => 3
  | four => 4

instance : ToString Dim := ⟨fun d => toString d.toNat⟩

end Dim

/-- The type of a single number. -/
inductive Scalar
  | bool
  | int
  | uint
  | float
  | double
  deriving DecidableEq, Repr

/-- The precision of the components of a matrix. -/
inductive Precision
  | float
  | double
  deriving DecidableEq, Repr

/-- The type of a component of this precision. -/
def Precision.scalar : Precision → Scalar
  | float => .float
  | double => .double

/-- The type of a uniform variable. Textures of every shape are bound alike, so
they are one type. -/
inductive UniformType
  | scalar (s : Scalar)
  | vector (size : Dim) (element : Scalar)
  | matrix (rows cols : Dim) (element : Precision)
  | texture
  deriving DecidableEq, Repr

/-- The kinds of types; the first five are also kinds of components. -/
inductive TypeKind
  | bool
  | int
  | uint
  | float
  | double
  | vector
  | matrix
  | texture
  deriving DecidableEq, Repr

namespace TypeKind

/-- All kinds, in the order of their declaration. -/
def all : List TypeKind :=
  [bool, int, uint, float, double, vector, matrix, texture]

/-- The name of a kind. -/
def name : TypeKind → String
  | bool => "bool"
  | int => "int"
  | uint => "uint"
  | float => "float"
  | double => "double"
  | vector => "vector"
  | matrix => "matrix"
  | texture => "texture"

end TypeKind

/-- The kind of a component. -/
def Scalar.kind : Scalar → TypeKind
  | bool => .bool
  | int => .int
  | uint => .uint
  | float => .float
  | double => .double

/-- A description of a type: its kind, the kind of its components, the number
of components or rows, and the number of columns. -/
structure TypeDescriptor where
  kind : TypeKind
  element : Option TypeKind
  rows : Int
  cols : Int
  deriving DecidableEq, Repr

namespace TypeDescriptor

/-- The letter that tells vectors and matrices of a component kind from those
of single precision. -/
def elementLetter : Option TypeKind → String
  | some .double => "d"
  | some .int => "i"
  | some .uint => "u"
  | some .bool => "b"
  | _ => ""

/-- The type as it is written in shader source, as far as it can be. -/
def spelling (d : TypeDescriptor) : String :=
  match d.kind with
  | .vector => s!"{elementLetter d.element}vec{d.rows}"
  | .matrix =>
    if d.rows == d.cols then s!"{elementLetter d.element}mat{d.rows}"
    else s!"{elementLetter d.element}mat{d.rows}x{d.cols}"
  | kind => kind.name

end TypeDescriptor

namespace UniformType

/-- The four fields of a type. -/
def descriptor : UniformType → TypeDescriptor
  | scalar s => ⟨s.kind, none, 1, 1⟩
  | vector n e => ⟨.vector, some e.kind, n.toNat, 1⟩
  | matrix r c e => ⟨.matrix, some e.scalar.kind, r.toNat, c.toNat⟩
  | texture => ⟨.texture, none, 1, 1⟩

/-- The type as it is written in shader source. -/
def spelling (t : UniformType) : String :=
  t.descriptor.spelling

/-- All types: scalars, vectors, matrices, textures. -/
def all : List UniformType :=
  [Scalar.bool, .int, .uint, .float, .double].map scalar ++
  ([Scalar.float, .double, .int, .uint, .bool].flatMap fun e =>
    Dim.all.map fun n => vector n e) ++
  ([Precision.float, .double].flatMap fun e =>
    Dim.all.flatMap fun r => Dim.all.map fun c => matrix r c e) ++
  [texture]

/-- The type with this description, if there is one. -/
def ofDescriptor? (d : TypeDescriptor) : Option UniformType :=
  all.find? fun t => t.descriptor == d

/-- The values of the type are arrays. -/
def isArray : UniformType → Bool
  | vector .. | matrix .. => true
  | scalar _ | texture => false

end UniformType

end ShaderBindings
