import ShaderBindings.Binding.State
import ShaderBindings.ModuleText.Loading
import ShaderBindings.Text.NormalForm

/-!
# Loading a class

A class comes to life by loading the text of its module. The module has it under
the normal form of its name.
-/

namespace ShaderBindings.Binding

/-- What is shared after a module has been loaded, if it can be. -/
def Shared.load (version : String) (plan : Plan) : Except Error Shared := do
  let documentation ←
    (ModuleText.load version plan).mapError Error.notLoadable
  let name := plan.options.className
  if !Text.isNormal name then throw (.classNotFound name)
  return { Shared.initial plan with documentation }

end ShaderBindings.Binding
