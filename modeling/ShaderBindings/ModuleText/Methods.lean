import ShaderBindings.Error
import ShaderBindings.ModuleText.Fields

/-!
# The methods of a generated class

How the shared program is compiled, recompiled and released, how parameters are
stored and read, and how the program is used for drawing.
-/

namespace ShaderBindings.ModuleText

open Text (literal)

/-! ## The shared program -/

/-- Reads every stage from the file it came from. -/
def loadShaders (plan : Plan) : List Item :=
  let name := plan.options.className
  [ .line "@staticmethod",
    .suite "def _load_shaders() -> None" (
      .line ("\"\"\"Re-read every stage from the file it was generated " ++
        "from.\"\"\"") ::
      plan.stages.map (fun s =>
        .line (s!"{name}._{s.id}_source = " ++
          s!"Path({literal s.stage.path}).read_text()"))),
    .blank ]

/-- The statements that compile one stage and attach it. -/
def compileStage (name : String) (s : PlannedStage) : List Item :=
  let handle := s!"{s.id}_shader"
  [ .line s!"{handle} = GL.glCreateShader(GL.{s.stage.kind.constantName})",
    .line s!"GL.glShaderSource({handle}, {name}._{s.id}_source)",
    .line s!"GL.glCompileShader({handle})",
    .line s!"GL.glAttachShader(program, {handle})" ]

/-- The statements that release one stage after linking. -/
def releaseStage (s : PlannedStage) : List Item :=
  [ .line s!"GL.glDetachShader(program, {s.id}_shader)",
    .line s!"GL.glDeleteShader({s.id}_shader)" ]

/-- Compiles and links the program and looks up every location. -/
def compileShader (plan : Plan) : List Item :=
  let name := plan.options.className
  let logFormat := s!"{qualifiedName plan.options} link log: \x7b\x7d"
  [ .line "@staticmethod",
    .suite "def compile_shader() -> None" (
      [Item.line ("\"\"\"Compile and link the shared program, then " ++
        "resolve locations.\"\"\"")] ++
      (if plan.options.reload then [Item.line s!"{name}._load_shaders()"]
        else []) ++
      [Item.line "program = GL.glCreateProgram()"] ++
      plan.stages.flatMap (compileStage name) ++
      [ Item.line "GL.glLinkProgram(program)",
        .line (s!"logger.debug({literal logFormat}, " ++
          "runtime.as_text(GL.glGetProgramInfoLog(program)))") ] ++
      plan.stages.flatMap releaseStage ++
      [Item.line s!"{name}._program_id = program"] ++
      plan.uniforms.map (fun u =>
        Item.line (s!"{name}._loc_{u.id} = " ++
          s!"GL.glGetUniformLocation(program, {literal u.name})")) ++
      plan.attributes.map (fun a =>
        Item.line (s!"{name}._loc_{a.id} = " ++
          s!"GL.glGetAttribLocation(program, {literal a.name})"))),
    .blank ]

/-- Deletes the program and compiles it again. -/
def recompile (plan : Plan) : List Item :=
  let name := plan.options.className
  [ .suite "def recompile(self) -> None"
      [ .line "\"\"\"Delete the shared program and compile it again.",
        .blank,
        .line "Like :meth:`compile`, this takes another reference on the",
        .line "shared program, so it stays alive until one more",
        .line ":meth:`dispose` than there were :meth:`compile` calls.",
        .line "\"\"\"",
        .line s!"GL.glDeleteProgram({name}._program_id)",
        .line s!"{name}._program_id = 0",
        .line "self.compile()" ],
    .blank ]

/-- Compiles the program if there is none and takes a reference. -/
def compile (plan : Plan) : List Item :=
  let name := plan.options.className
  [ .suite "def compile(self) -> None"
      [ .suite s!"if {name}._program_id == 0"
          [.line s!"{name}.compile_shader()"],
        .line s!"{name}._references.acquire()" ],
    .blank ]

/-- Gives a reference back. -/
def dispose (plan : Plan) : List Item :=
  [ .suite "def dispose(self) -> None"
      [.line s!"{plan.options.className}._references.release()"],
    .blank ]

/-- Deletes the program when the last reference is given back. -/
def releaseProgram (plan : Plan) : List Item :=
  let name := plan.options.className
  [ .line "@staticmethod",
    .suite "def _release_program() -> None"
      [ .line s!"GL.glDeleteProgram({name}._program_id)",
        .line s!"{name}._program_id = 0" ] ]

/-! ## Parameters -/

/-- A look-up whose failure is reported with a message. -/
def lookup (statement message : String) : List Item :=
  [ .suite "try" [.line statement],
    .suite "except KeyError"
      [ .line "raise runtime.InvalidIdentifierError(",
        .line s!"    {message}",
        .line ") from None" ] ]

/-- The message for a name that is no uniform. -/
def noUniform : String :=
  "f\"There is no uniform variable named \x7bname\x7d in this shader.\""

/-- Stores a value through the slot of a uniform. -/
def setParameter (plan : Plan) : List Item :=
  [ .suite "def set_parameter(self, name: str, value: object) -> None" (
      lookup s!"slot = {plan.options.className}._UNIFORMS[name]" noUniform ++
      [.line "slot.store(self, name, value)"]),
    .blank ]

/-- Loads a value through the slot of a uniform. -/
def getParameter (plan : Plan) : List Item :=
  [ .suite ("def get_parameter(self, name: str, " ++
      "expected_type: type | None = None) -> object") (
      lookup s!"slot = {plan.options.className}._UNIFORMS[name]" noUniform ++
      [.line "return slot.load(self, name, expected_type)"]),
    .blank ]

/-- Reads the location of a uniform or an attribute. -/
def getParameterLocation (plan : Plan) : List Item :=
  let name := plan.options.className
  [ .suite "def get_parameter_location(self, name: str) -> int" (
      lookup s!"field = {name}._LOCATIONS[name]"
        "f\"There is no parameter named \x7bname\x7d.\"" ++
      [.line s!"return getattr({name}, field)"]),
    .blank ]

/-- Lists the names of the uniforms; a tuple of one has a comma at its end. -/
def getUniformNames (plan : Plan) : List Item :=
  let names := ", ".intercalate (plan.uniforms.map fun u => literal u.name)
  let comma := if plan.uniforms.length == 1 then "," else ""
  [ .suite "def get_uniform_names(self) -> Iterator[str]"
      [.line s!"yield from ({names}{comma})"],
    .blank ]

/-! ## Drawing -/

/-- The statement that passes a uniform: a texture's unit, or the value. -/
def passUniform (u : PlannedUniform) : List Item :=
  match u.unit with
  | some unit => [.line s!"GL.glUniform1i(self._loc_{u.id}, {unit})"]
  | none => ((u.type.drawText? u.id).map Item.line).toList

/-- Passes every uniform to the program. -/
def passUniforms (plan : Plan) : List Item :=
  [ .suite "def pass_uniforms(self) -> None"
      (plan.uniforms.flatMap passUniform),
    .blank ]

/-- The name of a texture unit. -/
def textureUnitText (unit : Nat) : String :=
  if unit = 0 then "GL.GL_TEXTURE0" else s!"GL.GL_TEXTURE0 + {unit}"

/-- The statements that bind a texture to its unit. -/
def bindTexture (u : PlannedUniform) : List Item :=
  match u.unit with
  | none => []
  | some unit =>
    let field := s!"self.uniform_{u.id}"
    [ .line s!"GL.glActiveTexture({textureUnitText unit})",
      .line s!"GL.glBindTexture({field}.target, {field}.texture_id)" ]

/-- Makes the program the current one, binds the textures and enables the
attributes. -/
def useShader (plan : Plan) : List Item :=
  [ .suite "def use_shader(self) -> None" (
      .line s!"GL.glUseProgram({plan.options.className}._program_id)" ::
      plan.textures.flatMap bindTexture ++
      plan.attributes.map (fun a =>
        Item.line s!"GL.glEnableVertexAttribArray(self._loc_{a.id})")),
    .blank ]

/-! ## State of the program -/

/-- Reads the handle of the program, which has to be compiled. -/
def getShaderId (plan : Plan) : List Item :=
  let name := plan.options.className
  let message :=
    literal (Error.notInitialized (qualifiedName plan.options)).message
  [ .suite "def get_shader_id(self) -> int"
      [ .suite s!"if {name}._program_id == 0"
          [.line s!"raise runtime.ShaderNotInitializedError({message})"],
        .line s!"return {name}._program_id" ],
    .blank ]

/-- Tells whether shaders are supported. -/
def support (plan : Plan) : List Item :=
  let name := plan.options.className
  [ .line "@property",
    .suite "def is_supported(self) -> bool"
      [.line s!"return {name}.implementation_supports_shaders()"],
    .blank,
    .line "@staticmethod",
    .suite "def implementation_supports_shaders() -> bool"
      [.line "return runtime.supports_shaders()"],
    .blank ]

end ShaderBindings.ModuleText
