import ShaderBindings.Session

/-!
# Texture objects

Making, binding and deleting the object behind a texture handle.
-/

namespace ShaderBindings.Texture

variable {σ : Type}

/-- Makes a new texture object for a target. -/
def generate (gl : GL.Device σ) (target : Int) :
    Act (Session σ) Texture := do
  return ⟨← gl.perform .generateTexture, target⟩

/-- Binds the texture to its target. -/
def bind (gl : GL.Device σ) (t : Texture) : Act (Session σ) Unit :=
  gl.perform (.bindTexture t.target t.id)

/-- Deletes the texture object, if there is one. Gives the handle without it. -/
def delete (gl : GL.Device σ) (t : Texture) : Act (Session σ) Texture := do
  if t.isValid then gl.perform (.deleteTexture t.id)
  return { t with id := 0 }

end ShaderBindings.Texture
