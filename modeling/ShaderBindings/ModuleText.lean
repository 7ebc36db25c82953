import ShaderBindings.ModuleText.Methods

/-!
# Generated modules

The text of a module of bindings, as the plan describes it. Equal plans give
equal texts, byte for byte.
-/

namespace ShaderBindings.ModuleText

open Text (literal)

/-- The body of the class. -/
def classBody (plan : Plan) : List Item :=
  classDoc plan ++ sharedFields plan ++ instanceFields plan ++
  (if plan.options.reload then loadShaders plan else []) ++
  compileShader plan ++ recompile plan ++ compile plan ++
  setParameter plan ++ getParameter plan ++ getParameterLocation plan ++
  passUniforms plan ++ useShader plan ++ getShaderId plan ++ dispose plan ++
  support plan ++ getUniformNames plan ++ releaseProgram plan

/-- The line above the class, which records where it comes from. -/
def decorator (version : String) (o : Options) : Item :=
  .line (s!"@runtime.generated_code({literal toolName}, " ++
    s!"{literal version}, namespace={literal o.package})")

/-- The class with its decorator. -/
def classItems (version : String) (plan : Plan) : List Item :=
  let o := plan.options
  [ decorator version o,
    .suite s!"class {o.className}(runtime.GLShader)" (classBody plan) ]

/-- Everything a module says. -/
def items (version : String) (plan : Plan) : List Item :=
  let name := plan.options.className
  heading version plan ++ [.separate 2] ++ classItems version plan ++
  [ .separate 2,
    .line (s!"{name}._references = " ++
      s!"runtime.Counter({name}._release_program)") ]

/-- The text of the module that `plan` describes. -/
def ofPlan (version : String) (plan : Plan) : String :=
  (Item.writeAll (items version plan) {}).render

/-- The text of the module for a specification. -/
def ofSpec (version : String) (spec : Spec) :
    Except UnsupportedType String :=
  (Plan.ofSpec spec).map (ofPlan version)

end ShaderBindings.ModuleText
