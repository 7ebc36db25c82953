import ShaderBindings.Error
import ShaderBindings.Text.Raw
import ShaderBindings.UniformType.Source
import ShaderBindings.Value

/-!
# Calls of OpenGL

The calls that compiling, inspecting and using a program make, with the type of
the reply of each. A `Device` is whatever performs them.
-/

namespace ShaderBindings.GL

/-- The text of a log that may be missing. -/
def logText : Option RawText → String
  | none => ""
  | some t => t.decoded

/-- A value passed to a uniform. The arguments of an array are its type and its
components. -/
inductive Upload
  /-- A truth value as a number. -/
  | bool (b : Bool)
  | int (n : Int)
  | uint (n : Int)
  | float (x : Number.Binary .double)
  | double (x : Number.Binary .double)
  | vector (size : Dim) (component : Scalar) (values : Number.Array)
  | matrix (rows cols : Dim) (component : Precision) (transpose : Value)
      (values : Number.Array)

/-- A part of the version that is asked for as a number. -/
inductive VersionPart
  | major
  | minor
  deriving DecidableEq, Repr

/-- A call. Programs, shaders and textures are named by their handles. -/
inductive Call
  | createProgram
  | deleteProgram (program : Int)
  | createShader (kind : StageKind)
  | shaderSource (shader : Int) (text : String)
  | compileShader (shader : Int)
  | compileStatus (shader : Int)
  | shaderInfoLog (shader : Int)
  | attachShader (program shader : Int)
  | detachShader (program shader : Int)
  | deleteShader (shader : Int)
  | linkProgram (program : Int)
  | linkStatus (program : Int)
  | programInfoLog (program : Int)
  | attributeCount (program : Int)
  | uniformCount (program : Int)
  | activeAttribute (program index size : Int)
  | activeUniform (program index size : Int)
  | attributeLocation (program : Int) (name : String)
  | uniformLocation (program : Int) (name : String)
  | useProgram (program : Int)
  | activeTexture (unit : Nat)
  | bindTexture (target texture : Int)
  | enableAttribute (location : Int)
  | passUnit (location : Int) (unit : Nat)
  | passUniform (location : Int) (value : Upload)
  | generateTexture
  | deleteTexture (texture : Int)
  | versionText
  | versionPart (part : VersionPart)

namespace Call

/-- What a call gives back. -/
@[reducible] def Reply : Call → Type
  | createProgram | createShader _ | generateTexture => Int
  | compileStatus _ | linkStatus _ => Bool
  | shaderInfoLog _ | programInfoLog _ | versionText => Option RawText
  | attributeCount _ | uniformCount _ => Nat
  | activeAttribute .. | activeUniform .. => RawText × Int
  | attributeLocation .. | uniformLocation .. | versionPart _ => Int
  | _ => Unit

end Call

/-- The name of the call that passes a value. -/
def Upload.callName : Upload → String
  | bool _ | int _ => "glUniform1i"
  | uint _ => "glUniform1ui"
  | float _ => "glUniform1f"
  | double _ => "glUniform1d"
  | vector n e _ => s!"glUniform{n}{e.callSuffix}v"
  | matrix r c e .. => UniformType.matrixCall r c e

/-- The components of truth values are passed as integers. -/
def componentValues (component : Scalar) (values : Number.Array) :
    Number.Array :=
  match component with
  | .bool => values.cast .int32
  | _ => values

/-- The arguments after the location. -/
def Upload.arguments : Upload → List Value
  | bool b => [.int (if b then 1 else 0)]
  | int n | uint n => [.int n]
  | float x | double x => [.float x]
  | vector _ e a => [.int 1, .array (componentValues e a)]
  | matrix _ _ _ transpose a => [.int 1, transpose, .array a]

namespace Call

/-- The name of the function that is called. -/
def name : Call → String
  | createProgram => "glCreateProgram"
  | deleteProgram _ => "glDeleteProgram"
  | createShader _ => "glCreateShader"
  | shaderSource .. => "glShaderSource"
  | compileShader _ => "glCompileShader"
  | compileStatus _ => "glGetShaderiv"
  | shaderInfoLog _ => "glGetShaderInfoLog"
  | attachShader .. => "glAttachShader"
  | detachShader .. => "glDetachShader"
  | deleteShader _ => "glDeleteShader"
  | linkProgram _ => "glLinkProgram"
  | linkStatus _ | attributeCount _ | uniformCount _ => "glGetProgramiv"
  | programInfoLog _ => "glGetProgramInfoLog"
  | activeAttribute .. => "glGetActiveAttrib"
  | activeUniform .. => "glGetActiveUniform"
  | attributeLocation .. => "glGetAttribLocation"
  | uniformLocation .. => "glGetUniformLocation"
  | useProgram _ => "glUseProgram"
  | activeTexture _ => "glActiveTexture"
  | bindTexture .. => "glBindTexture"
  | enableAttribute _ => "glEnableVertexAttribArray"
  | passUnit .. => "glUniform1i"
  | passUniform _ value => value.callName
  | generateTexture => "glGenTextures"
  | deleteTexture _ => "glDeleteTextures"
  | versionText => "glGetString"
  | versionPart _ => "glGetIntegerv"

/-- The arguments of the function, constants by their codes. -/
def arguments : Call → List Value
  | createProgram => []
  | createShader kind => [.int kind.code]
  | shaderSource shader text => [.int shader, .text text]
  | compileStatus shader => [.int shader, .int 0x8B81]
  | linkStatus program => [.int program, .int 0x8B82]
  | attributeCount program => [.int program, .int 0x8B89]
  | uniformCount program => [.int program, .int 0x8B86]
  | attachShader program shader | detachShader program shader =>
    [.int program, .int shader]
  | activeAttribute program index size | activeUniform program index size =>
    [.int program, .int index, .int size]
  | attributeLocation program name | uniformLocation program name =>
    [.int program, .text name]
  | deleteProgram handle | compileShader handle | shaderInfoLog handle
  | deleteShader handle | linkProgram handle | programInfoLog handle
  | useProgram handle | enableAttribute handle => [.int handle]
  | activeTexture unit => [.int (0x84C0 + unit)]
  | bindTexture target texture => [.int target, .int texture]
  | passUnit location unit => [.int location, .int unit]
  | passUniform location value => .int location :: value.arguments
  | generateTexture => [.int 1]
  | deleteTexture texture => [.list [.int texture]]
  | versionText => [.int 0x1F02]
  | versionPart .major => [.int 0x821B]
  | versionPart .minor => [.int 0x821C]

end Call

/-- The constants of OpenGL that a module of bindings may ask for by name. -/
def constants : List (String × Nat) :=
  StageKind.all.map (fun kind => (kind.constantName, kind.code)) ++
  [("GL_TEXTURE0", 0x84C0), ("GL_VERSION", 0x1F02),
   ("GL_MAJOR_VERSION", 0x821B), ("GL_MINOR_VERSION", 0x821C),
   ("GL_COMPILE_STATUS", 0x8B81), ("GL_LINK_STATUS", 0x8B82),
   ("GL_ACTIVE_ATTRIBUTES", 0x8B89), ("GL_ACTIVE_UNIFORMS", 0x8B86)]

/-- The value of a constant. -/
def constant (name : String) : Except Error Nat :=
  match constants.lookup name with
  | some code => .ok code
  | none => .error (.unknownConstant name)

/-- A performer of calls, with a state of its own. -/
def Device (σ : Type) : Type :=
  (call : Call) → σ → Except ExternalFault call.Reply × σ

/-- A call and what came of it. -/
structure Event where
  call : Call
  result : Except ExternalFault call.Reply

end ShaderBindings.GL
