import ShaderBindings.Session
import ShaderBindings.Version.Reading

/-!
# Capabilities of the current context

Which version of OpenGL the current context has, and whether it runs shaders.
-/

namespace ShaderBindings.Capability

variable {σ : Type}

/-- The first version with shaders. -/
def shaderVersion : Version := ⟨2, 0⟩

/-- The version in a version text, which may be missing. -/
def versionIn : Option RawText → Except Error (Option Version)
  | none => .ok none
  | some t => Version.find? t.decoded

/-- The version of the current context: the one in its version text, or else
the one it gives in numbers. -/
def contextVersion (gl : GL.Device σ) : Act (Session σ) Version := do
  let text ← gl.perform .versionText
  match ← Act.ofExcept (versionIn text) with
  | some version => return version
  | none =>
    Session.debug "GL_VERSION unparseable, querying GL_MAJOR_VERSION"
    let major ← gl.perform (.versionPart .major)
    let minor ← gl.perform (.versionPart .minor)
    return ⟨major, minor⟩

/-- The current context runs shaders. -/
def supportsShaders (gl : GL.Device σ) : Act (Session σ) Bool := do
  return !(← contextVersion gl).before shaderVersion

/-- Fails if the current context does not run shaders. -/
def requireShaders (gl : GL.Device σ) : Act (Session σ) Unit := do
  let version ← contextVersion gl
  if version.before shaderVersion then
    Act.fail (.shadersUnsupported version)

end ShaderBindings.Capability
