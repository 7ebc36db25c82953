/-!
# The platform of OpenGL

Which platform binding is used is said by an environment variable. Without it,
and without a display to open windows on, rendering goes on through EGL.
-/

namespace ShaderBindings.Platform

/-- A variable is set and not empty. -/
def isSet (environment : List (String × String)) (name : String) : Bool :=
  match environment.lookup name with
  | none | some "" => false
  | some _ => true

/-- The platform binding to use; none if that is left open. -/
def binding (environment : List (String × String)) (system : String) :
    Option String :=
  match environment.lookup "PYOPENGL_PLATFORM" with
  | some chosen => some chosen
  | none =>
    if system == "linux" && !isSet environment "DISPLAY" &&
        !isSet environment "WAYLAND_DISPLAY" then some "egl"
    else none

end ShaderBindings.Platform
