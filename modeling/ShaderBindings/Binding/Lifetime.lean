import ShaderBindings.Binding.ClassName
import ShaderBindings.Capability

/-!
# The life of the shared program

The program is compiled for the first instance that asks for it and deleted when
the last reference is given back.
-/

namespace ShaderBindings.Binding

variable {σ : Type}

/-- Reads every stage from its file again. -/
def loadStages : List PlannedStage → Work σ Unit
  | [] => return ()
  | s :: rest => do
    let files := (← Act.get).2.files
    let text ← Act.ofExcept (files.readText (.ofText s.stage.path))
    share fun b => { b with sources := Table.insert s.id text b.sources }
    loadStages rest

/-- A variable that holds a handle. -/
def holdsHandle (variableName : String) : String × String :=
  (variableName, "'int' object")

/-- Compiles the stages and attaches them to a program. Gives their handles. -/
def attachStages (gl : GL.Device σ) (plan : Plan) (program : Int)
    (holdings : Holdings) : List PlannedStage → Work σ (List Int)
  | [] => return []
  | s :: rest => do
    let shader ← gl.perform (.createShader s.stage.kind)
    let holdings := holdsHandle (Method.handleVariable s) :: holdings
    reach plan .compileShader s!"_{s.id}_source" holdings
    let text := ((← shared).sources.lookup s.id).getD ""
    gl.perform (.shaderSource shader text)
    gl.perform (.compileShader shader)
    gl.perform (.attachShader program shader)
    let shaders ← attachStages gl plan program holdings rest
    return shader :: shaders

/-- Releases the handles of the stages. -/
def releaseStages (gl : GL.Device σ) (program : Int) :
    List Int → Work σ Unit
  | [] => return ()
  | shader :: rest => do
    gl.perform (.detachShader program shader)
    gl.perform (.deleteShader shader)
    releaseStages gl program rest

/-- Asks for the location of each variable, one after the other. -/
def resolveLocations (ask : String → Act (Session σ) Int) :
    List (String × String) → Work σ Unit
  | [] => return ()
  | (name, id) :: rest => do
    let location ← Act.onFirst (ask name)
    share fun b =>
      { b with locations := Table.insert id location b.locations }
    resolveLocations ask rest

/-- Compiles and links the shared program and looks up all locations. -/
def compileShader (gl : GL.Device σ) (plan : Plan) : Work σ Unit := do
  if plan.options.reload then
    reach plan .compileShader "_load_shaders" []
    loadStages plan.stages
  let program ← gl.perform .createProgram
  let shaders ←
    attachStages gl plan program [holdsHandle "program"] plan.stages
  gl.perform (.linkProgram program)
  let log ← gl.perform (.programInfoLog program)
  Act.onFirst (Session.debug
    s!"{ModuleText.qualifiedName plan.options} link log: {GL.logText log}")
  releaseStages gl program shaders
  reach plan .compileShader "_program_id" [holdsHandle "program"]
  share fun b => { b with program }
  resolveLocations (fun name => gl.perform (.uniformLocation program name))
    (plan.uniforms.map fun u => (u.name, u.id))
  resolveLocations (fun name => gl.perform (.attributeLocation program name))
    (plan.attributes.map fun a => (a.name, a.id))

/-- Deletes the shared program. -/
def releaseProgram (gl : GL.Device σ) (plan : Plan) : Work σ Unit := do
  reach plan .releaseProgram "_program_id" []
  gl.perform (.deleteProgram (← shared).program)
  share fun b => { b with program := 0 }

/-- Compiles the program if there is none and takes a reference. -/
def compile (gl : GL.Device σ) (plan : Plan) (self : String) :
    Work σ Unit := do
  reach plan .compile "_program_id" []
  if (← seenProgram plan .compile self) = 0 then compileShader gl plan
  let _ ← References.acquire references

/-- Deletes the program and compiles it again, taking another reference. -/
def recompile (gl : GL.Device σ) (plan : Plan) (self : String) :
    Work σ Unit := do
  reach plan .recompile "_program_id" []
  gl.perform (.deleteProgram (← seenProgram plan .recompile self))
  forgetProgram plan .recompile self
  compile gl plan self

/-- Gives a reference back; after the last one the program is deleted. -/
def dispose (gl : GL.Device σ) (plan : Plan) : Work σ Unit := do
  reach plan .dispose "_references" []
  let _ ← References.release references (releaseProgram gl plan)

/-- Does something with a reference taken, and gives it back afterwards. -/
def within {α : Type} (gl : GL.Device σ) (plan : Plan) (self : String)
    (body : Work σ α) : Work σ α := do
  compile gl plan self
  Act.ensuring body (dispose gl plan)

/-- The handle of the program. -/
def shaderId (plan : Plan) (self : String) : Work σ Int := do
  reach plan .shaderId "_program_id" []
  let program ← seenProgram plan .shaderId self
  if program = 0 then
    Act.fail (.notInitialized (ModuleText.qualifiedName plan.options))
  return program

/-- The current context runs shaders. -/
def supportsShaders (gl : GL.Device σ) : Work σ Bool :=
  Act.onFirst (Capability.supportsShaders gl)

/-- The current context runs shaders, as an instance tells. -/
def isSupported (gl : GL.Device σ) (plan : Plan) : Work σ Bool := do
  reach plan .support "implementation_supports_shaders" []
  supportsShaders gl

end ShaderBindings.Binding
