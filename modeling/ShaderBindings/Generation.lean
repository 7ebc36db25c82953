import ShaderBindings.Compilation
import ShaderBindings.Context
import ShaderBindings.Introspection
import ShaderBindings.ModuleText

/-!
# Generation of a module

The way from stages to the text of a module: compile and link inside a context,
ask for the active variables, and write the module once the context is left. A
record says how far the last generation came.
-/

namespace ShaderBindings.Generation

variable {σ : Type}

/-- How far a generation came. -/
inductive Progress
  | uninitialized
  | stagesLoaded
  | compiled
  | compileFailed
  | linked
  | linkFailed
  | introspected
  | emitted
  deriving DecidableEq, Repr

namespace Progress

/-- The name under which a progress is reported. -/
def name : Progress → String
  | uninitialized => "UNINITIALIZED"
  | stagesLoaded => "STAGES_LOADED"
  | compiled => "COMPILED"
  | compileFailed => "COMPILE_FAILED"
  | linked => "LINKED"
  | linkFailed => "LINK_FAILED"
  | introspected => "INTROSPECTED"
  | emitted => "EMITTED"

/-- The program could not be made. -/
def isFailure : Progress → Bool
  | compileFailed | linkFailed => true
  | _ => false

end Progress

/-- What is known about the last generation. -/
structure Record where
  progress : Progress := .uninitialized
  spec : Option Spec := none
  deriving DecidableEq, Repr

/-- Notes how far the generation came. -/
def reach (progress : Progress) : Act (Session σ × Record) Unit :=
  Act.onSecond (Act.modify fun r => { r with progress })

/-- Compiles the stages. -/
def compile (gl : GL.Device σ) (stages : List Stage) :
    Act (Session σ × Record) Compilation.Outcome := do
  match ← Act.attempt (Act.onFirst (Compilation.run gl stages)) with
  | .ok outcome => return outcome
  | .error (.mixedStages previous current) =>
    reach .compileFailed
    Act.fail (.mixedStages previous current)
  | .error e => Act.fail e

/-- Makes sure that the program was compiled and linked, and asks for its
uniforms and attributes. -/
def inspect (gl : GL.Device σ) (outcome : Compilation.Outcome) :
    Act (Session σ × Record) (List Variable × List Variable) := do
  if !outcome.compiled then
    reach .compileFailed
    Act.fail (.stagesFailed outcome.failures)
  reach .compiled
  if !outcome.linked then
    reach .linkFailed
    Act.onFirst (Session.error
      s!"Shader failed to link. Info log:\n{outcome.linkLog}")
    Act.fail (.linkFailed outcome.linkLog)
  reach .linked
  let active ← Act.onFirst
    (Introspection.run gl Introspection.nameSize outcome.program)
  reach .introspected
  return active

/-- Makes a program of the stages, asks for its variables, and deletes it. -/
def examine (gl : GL.Device σ) (stages : List Stage) :
    Act (Session σ × Record) (List Variable × List Variable) := do
  let outcome ← compile gl stages
  Act.ensuring (inspect gl outcome)
    (Act.onFirst (gl.perform (.deleteProgram outcome.program)))

/-- The text of the module for the stages. `version` is the version of the tool
that the module names. -/
def run (gl : GL.Device σ) (context : Context σ) (version : String)
    (stages : List Stage) (options : Options) :
    Act (Session σ × Record) String := do
  Act.onSecond (Act.set {})
  if stages.isEmpty then Act.fail .noStages
  reach .stagesLoaded
  let window ← Act.onFirst context.enter
  let (uniforms, attributes) ← Act.ensuring (examine gl stages)
    (Act.onFirst (context.leave window))
  let spec : Spec := { options, stages, uniforms, attributes }
  Act.onSecond (Act.modify fun r => { r with spec := some spec })
  match ModuleText.ofSpec version spec with
  | .error fault => Act.fail (.unsupportedType fault)
  | .ok text =>
    reach .emitted
    Act.onFirst
      (Session.info s!"Generated {ModuleText.qualifiedName options}")
    return text

end ShaderBindings.Generation
