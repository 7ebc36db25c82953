import ShaderBindings.Diagnostic
import ShaderBindings.Session

/-!
# Compilation of a program

Stages are compiled and attached one after the other, failing ones included, so
that all diagnostics are collected; the program is linked if all succeeded. The
shaders are released in every case, and the program too unless the caller gets
it.
-/

namespace ShaderBindings.Compilation

variable {σ : Type}

/-- What came of compiling and linking. The program belongs to the caller. -/
structure Outcome where
  program : Int
  stages : List StageOutcome
  linked : Bool := false
  linkLog : String := ""
  deriving DecidableEq, Repr

namespace Outcome

/-- Every stage was compiled. -/
def compiled (o : Outcome) : Bool :=
  o.stages.all fun s => s.succeeded

/-- Every stage was compiled, and the program was linked. -/
def succeeded (o : Outcome) : Bool :=
  o.compiled && o.linked

/-- The stages that were not compiled, in order. -/
def failures (o : Outcome) : List StageOutcome :=
  o.stages.filter fun s => !s.succeeded

end Outcome

/-- The shaders that were created, and those that were attached. -/
structure Held where
  created : List Int := []
  attached : List Int := []
  deriving DecidableEq, Repr

/-- Changes what is held. -/
def hold (f : Held → Held) : Act (Session σ × Held) Unit :=
  Act.onSecond (Act.modify f)

/-- Compiles one stage, attaches it, and asks what came of it. -/
def compileStage (gl : GL.Device σ) (program : Int) (stage : Stage) :
    Act (Session σ × Held) StageOutcome := do
  let shader ← gl.perform (.createShader stage.kind)
  hold fun h => { h with created := h.created ++ [shader] }
  gl.perform (.shaderSource shader stage.text)
  gl.perform (.compileShader shader)
  gl.perform (.attachShader program shader)
  hold fun h => { h with attached := h.attached ++ [shader] }
  let succeeded ← gl.perform (.compileStatus shader)
  let log ← gl.perform (.shaderInfoLog shader)
  let diagnostics := Diagnostic.inFile (GL.logText log) stage.path
  if succeeded then
    Act.onFirst
      (Session.info s!"Compiled {stage.kind.stem} stage {stage.path}")
  else
    Act.onFirst
      (Session.error s!"Shader failed to compile. Info log:\n{diagnostics}")
  return ⟨stage, succeeded, diagnostics⟩

/-- Compiles stages in order. A stage that does not go with the one before it
ends the compilation. -/
def compileStages (gl : GL.Device σ) (program : Int) :
    Option StageKind → List Stage → Act (Session σ × Held) (List StageOutcome)
  | _, [] => return []
  | previous, stage :: rest => do
    match previous with
    | some kind =>
      if !kind.compatible stage.kind then
        Act.fail (.mixedStages kind stage.kind)
    | none => pure ()
    let outcome ← compileStage gl program stage
    let outcomes ← compileStages gl program (some stage.kind) rest
    return outcome :: outcomes

/-- Links a program. -/
def link (gl : GL.Device σ) (program : Int) (stages : List StageOutcome) :
    Act (Session σ) Outcome := do
  gl.perform (.linkProgram program)
  let linked ← gl.perform (.linkStatus program)
  let log ← gl.perform (.programInfoLog program)
  return { program, stages, linked, linkLog := GL.logText log }

/-- Compiles the stages and links the program if all of them succeeded. -/
def build (gl : GL.Device σ) (program : Int) (stages : List Stage) :
    Act (Session σ × Held) Outcome := do
  let outcome : Outcome := ⟨program, ← compileStages gl program none stages,
    false, ""⟩
  if outcome.compiled then link gl program outcome.stages
  else
    Act.onFirst (Session.error
      (s!"{outcome.failures.length} of {stages.length} stage(s) failed to " ++
        "compile, skipping link"))
    return outcome

/-- Detaches the shaders that were attached and deletes all of them. -/
def release (gl : GL.Device σ) (program : Int) (held : Held) :
    Act (Session σ) Unit :=
  held.created |> Act.each fun shader => do
    if held.attached.contains shader then
      gl.perform (.detachShader program shader)
    gl.perform (.deleteShader shader)

/-- Compiles and links stages into a new program. -/
def run (gl : GL.Device σ) (stages : List Stage) :
    Act (Session σ) Outcome := do
  if stages.isEmpty then Act.fail .noStages
  let program ← gl.perform .createProgram
  let (result, held) ← Act.tracked {} (build gl program stages)
  match result with
  | .ok outcome =>
    release gl program held
    return outcome
  | .error e =>
    release gl program held
    gl.perform (.deleteProgram program)
    Act.fail e

end ShaderBindings.Compilation
