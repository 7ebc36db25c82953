import ShaderBindings.Arguments
import ShaderBindings.Command.Line
import ShaderBindings.Generation

/-!
# Commands

Generating a module from a command line and writing it to its file. Errors in
what was asked for are logged and end in an exit code; errors of the file system
and of OpenGL itself are passed on.
-/

namespace ShaderBindings.Command

variable {σ : Type}

/-- The devices that a command works with. -/
structure Devices (σ : Type) where
  gl : GL.Device σ
  windows : Window.System σ

/-- What a command works on: the devices and the files. -/
abbrev Work (σ α : Type) := Act (Session σ × File.System) α

/-- The exit code of a failure. -/
def failureCode : Int := -1

/-- The exit code of a command line that is not understood. -/
def usageCode : Int := 2

/-- Reads the arguments and logs the problems with them. -/
def readArguments (args : List String) : Work σ Arguments := do
  let (_, fs) ← Act.get
  let (arguments, problems) := Arguments.parse fs args
  Act.onFirst (Act.modify fun s =>
    { s with log := s.log ++ problems.map Arguments.Problem.entry })
  Act.ofExcept arguments

/-- Changes the files. -/
def changeFiles (f : File.System → Except Error File.System) :
    Work σ Unit := do
  let (_, fs) ← Act.get
  let fs ← Act.ofExcept (f fs)
  Act.onSecond (Act.set fs)

/-- Writes a module to its file. The directories above it are made. -/
def writeModule (path : File.Path) (text : String) : Work σ Unit := do
  changeFiles fun fs => fs.makeDirectories path.parent
  changeFiles fun fs => fs.writeText path text

/-- Generates the module that arguments ask for and writes it. Gives the path
of its file. -/
def generate (devices : Devices σ) (a : Arguments) : Work σ File.Path := do
  if a.stages.isEmpty then Act.fail .noUsableStage
  let version ← Act.ofExcept (Context.configure a.contextVersion)
  Act.ofExcept (a.options.check.mapError .options)
  let context := Context.hidden devices.windows version
  let (result, _) ← Act.onFirst (Act.tracked {}
    (Generation.run devices.gl context ModuleText.toolVersion a.stages
      a.options))
  let text ← Act.ofExcept result
  match a.output with
  | none => Act.fail .noUsableStage
  | some path =>
    writeModule path text
    Act.onFirst (Session.info
      s!"Wrote {ModuleText.qualifiedName a.options} to {path.text}")
    return path

/-- An error in what was asked for: it is logged, and not passed on. -/
def isReported : Error → Bool
  | .file _ | .external _ | .notInTable | .unknownConstant _
  | .unknownAttribute _ | .unknownUniform _ | .unknownParameter _
  | .notStored .. | .notLoaded .. | .notInitialized _ | .notLoadable _
  | .classNotFound _ | .undefinedName _
  | .unassignedName _ | .hiddenName _ | .noValue _
  | .shadersUnsupported _ => false
  | .conversion fault => fault.category = .value
  | .options _ | .noStages | .noUsableStage | .argument .. | .mixedStages ..
  | .stagesFailed _ | .linkFailed _ | .unsupportedType _ | .textureDrawn
  | .context _ | .contextTooOld .. | .nullInPath | .emptyName _ | .decoding _
  | .tooManyDigits _ => true

/-- Generates a module once. Gives the exit code. A context that is too old is
reported, but no failure. -/
def compile (devices : Devices σ) (args : List String) : Work σ Int := do
  if args.isEmpty then
    Act.onFirst (Session.error "No arguments passed.")
    return failureCode
  match ← Act.attempt (do generate devices (← readArguments args)) with
  | .ok _ => return 0
  | .error (.contextTooOld version expected) =>
    Act.onFirst (Session.error (Error.contextTooOld version expected).message)
    return 0
  | .error e =>
    if isReported e then
      Act.onFirst (Session.error s!"Wrapper generation failed: {e.message}")
      return failureCode
    else Act.fail e

end ShaderBindings.Command
