/-!
# Shader stages

The stages of the graphics pipeline that a program is made of, and the source
text of one of them.
-/

namespace ShaderBindings

/-- A stage of the pipeline. -/
inductive StageKind
  | vertex
  | fragment
  | geometry
  | tessEval
  | tessControl
  | compute
  deriving DecidableEq, Repr

namespace StageKind

/-- All stages. -/
def all : List StageKind :=
  [vertex, fragment, geometry, tessEval, tessControl, compute]

/-- The identifier of the stage in generated code. -/
def stem : StageKind → String
  | vertex => "vertex"
  | fragment => "fragment"
  | geometry => "geometry"
  | tessEval => "tess_eval"
  | tessControl => "tess_control"
  | compute => "compute"

/-- The name of the shader type in OpenGL. -/
def constantName : StageKind → String
  | vertex => "GL_VERTEX_SHADER"
  | fragment => "GL_FRAGMENT_SHADER"
  | geometry => "GL_GEOMETRY_SHADER"
  | tessEval => "GL_TESS_EVALUATION_SHADER"
  | tessControl => "GL_TESS_CONTROL_SHADER"
  | compute => "GL_COMPUTE_SHADER"

/-- The shader type in OpenGL. -/
def code : StageKind → Nat
  | vertex => 0x8B31
  | fragment => 0x8B30
  | geometry => 0x8DD9
  | tessEval => 0x8E87
  | tessControl => 0x8E88
  | compute => 0x91B9

/-- Two stages may be linked into one program: a compute stage goes with
compute stages only. -/
def compatible (a b : StageKind) : Bool :=
  (a == compute) == (b == compute)

end StageKind

/-- A stage as read from a file: the path as it was given, the stage it is
compiled as, and the text. -/
structure Stage where
  path : String
  kind : StageKind
  text : String
  deriving DecidableEq, Repr

/-- What came of compiling one stage. -/
structure StageOutcome where
  stage : Stage
  succeeded : Bool
  diagnostics : String
  deriving DecidableEq, Repr

end ShaderBindings
