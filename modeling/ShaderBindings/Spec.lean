import ShaderBindings.Options
import ShaderBindings.Stage

/-!
# Specifications

All that a module of bindings is generated from: the options, the stages of the
program, and the variables that are active in it once it is linked.
-/

namespace ShaderBindings

/-- An active variable, as a linked program reports it. -/
structure Variable where
  name : String
  /-- The code of its type. -/
  tag : Int
  deriving DecidableEq, Repr

/-- What a module is generated from. -/
structure Spec where
  options : Options
  stages : List Stage
  uniforms : List Variable
  attributes : List Variable
  deriving DecidableEq, Repr

end ShaderBindings
