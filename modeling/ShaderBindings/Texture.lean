/-!
# Texture handles

A texture object of OpenGL and the target it is bound to.
-/

namespace ShaderBindings

/-- A texture object. The default, with handle zero, is no texture. -/
structure Texture where
  id : Int := 0
  target : Int := 0
  deriving DecidableEq, Repr

/-- The handle names a texture object. -/
def Texture.isValid (t : Texture) : Bool :=
  t.id != 0

end ShaderBindings
