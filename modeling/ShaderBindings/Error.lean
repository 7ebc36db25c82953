import ShaderBindings.Conversion.Fault
import ShaderBindings.File.Fault
import ShaderBindings.ModuleText.Fault
import ShaderBindings.Plan
import ShaderBindings.Text.Blank
import ShaderBindings.Text.Utf8
import ShaderBindings.Version

/-!
# Errors

Everything that can go wrong between a command line and a drawn frame, by its
cause, and the words for it.
-/

namespace ShaderBindings

/-- A failure of something outside: a call of OpenGL, of the window system, or
of a caller's own code. -/
inductive ExternalFault
  | failed (text : String)
  /-- An index beyond the items there are. -/
  | badIndex
  deriving DecidableEq, Repr

/-- Why no context could be made. -/
inductive ContextFault
  | invalidVersion (version : Version)
  | unsupportedVersion (version : Version)
  | noWindowSystem
  | noWindow
  deriving DecidableEq, Repr

/-- An error, by its cause. -/
inductive Error
  -- what is asked for
  | options (fault : Options.Fault)
  | noStages
  | noUsableStage
  | argument (argument reason : String)
  | unknownConstant (name : String)
  -- compiling and linking
  | mixedStages (previous current : StageKind)
  | stagesFailed (failures : List StageOutcome)
  | linkFailed (log : String)
  | unsupportedType (fault : UnsupportedType)
  | notInTable
  | textureDrawn
  -- contexts
  | context (fault : ContextFault)
  | contextTooOld (version expected : Version)
  | shadersUnsupported (version : Version)
  -- parameters
  | unknownUniform (name : String)
  | unknownParameter (name : String)
  | unknownAttribute (message : String)
  | conversion (fault : Conversion.Fault)
  | notStored (name typeName : String) (fault : Conversion.Fault)
  | notLoaded (name typeName : String)
  | notInitialized (qualifiedName : String)
  -- generated classes with names that mean something else
  | notLoadable (fault : ModuleText.Fault)
  /-- A loaded module has no class of the name. -/
  | classNotFound (name : String)
  | undefinedName (name : String)
  | unassignedName (name : String)
  | hiddenName (name : String)
  /-- A field holds something that is no value. -/
  | noValue (field : String)
  -- text and files
  | file (fault : File.Fault)
  | nullInPath
  | emptyName (path : String)
  | decoding (fault : Text.Utf8.DecodeError)
  | tooManyDigits (count : Nat)
  -- everything outside
  | external (fault : ExternalFault)
  deriving DecidableEq, Repr

/-- The words for a context fault. -/
def ContextFault.message : ContextFault → String
  | invalidVersion v => s!"Invalid OpenGL version: {v}"
  | unsupportedVersion v => s!"Unsupported OpenGL version: {v}"
  | noWindowSystem => "Failed to initialize GLFW"
  | noWindow => "Failed to create GLFW window"

/-- The words for an external fault. -/
def ExternalFault.message : ExternalFault → String
  | failed text => text
  | badIndex => "list index out of range"

namespace Error

/-- The words for an error. -/
def message : Error → String
  | options fault => fault.message
  | noStages => "At least one shader stage is required"
  | noUsableStage => "No shader stages were given"
  | argument arg reason => s!"Invalid argument '{arg}': {reason}"
  | unknownConstant name => name
  | mixedStages previous current =>
    "Compute shaders cannot be compiled with other shader types " ++
      s!"(got {current.stem} after {previous.stem})."
  | stagesFailed failures =>
    let logs := failures.map fun failure =>
      s!"{failure.stage.path}:\n{Text.trimEnd failure.diagnostics}"
    s!"{failures.length} shader stage(s) failed to compile. Info log:\n" ++
      "\n".intercalate logs
  | linkFailed log =>
    s!"Shader failed to link. Info log:\n{Text.trimEnd log}"
  | unsupportedType fault => fault.message
  | notInTable => "the type is not in the table"
  | textureDrawn => "Texture uniforms are passed as texture unit indices"
  | context fault => fault.message
  | contextTooOld version expected =>
    "OpenGL version is not high enough. Expected OpenGL version " ++
      s!"{expected} or greater, got version {version}."
  | shadersUnsupported version =>
    s!"OpenGL {version} does not support shaders, " ++
      "2.0 or greater is required."
  | unknownUniform name =>
    s!"There is no uniform variable named {name} in this shader."
  | unknownParameter name => s!"There is no parameter named {name}."
  | unknownAttribute message => message
  | conversion fault => fault.message
  | notStored name typeName fault =>
    s!"Invalid parameter type: {name} is not convertible from the " ++
      s!"type \"{typeName}\" ({fault.message})."
  | notLoaded name typeName =>
    s!"Invalid parameter type: {name} is not convertible to the " ++
      s!"type \"{typeName}\"."
  | notInitialized qualifiedName =>
    s!"The shader \"{qualifiedName}\" has not been initialized. " ++
      "Call compile() on one of the instances or compile_shader() to " ++
      "compile the shader."
  | notLoadable fault => fault.message
  | classNotFound name => s!"the module has no class named '{name}'"
  | undefinedName name => s!"name '{name}' is not defined"
  | unassignedName name =>
    s!"cannot access local variable '{name}' where it is not associated " ++
      "with a value"
  | hiddenName name => s!"the class hides the name '{name}'"
  | noValue field => s!"the field '{field}' holds no value"
  | file fault => fault.message
  | nullInPath => "embedded null byte"
  | emptyName path => s!"PosixPath({Text.literal path}) has an empty name"
  | decoding fault => fault.message
  | tooManyDigits count =>
    "Exceeds the limit (4300 digits) for integer string conversion: value " ++
      s!"has {count} digits; use sys.set_int_max_str_digits() to increase " ++
      "the limit"
  | external fault => fault.message

end Error

end ShaderBindings
