/-!
# Versions

Versions of OpenGL, ordered by their major and then by their minor number.
-/

namespace ShaderBindings

/-- A version. Numbers below zero are no versions, but may be asked for. -/
structure Version where
  major : Int
  minor : Int
  deriving DecidableEq, Repr

namespace Version

/-- A version comes before another. -/
def before (a b : Version) : Bool :=
  a.major < b.major || (a.major == b.major && a.minor < b.minor)

instance : ToString Version := ⟨fun v => s!"{v.major}.{v.minor}"⟩

end Version

end ShaderBindings
