import ShaderBindings.Binding.Lifetime
import ShaderBindings.Binding.Parameters

/-!
# Fields

What reading a field of an instance gives: what the instance holds, what all
instances share, or one of the things that every class has. Most of the latter
are no values.
-/

namespace ShaderBindings.Binding

variable {σ : Type}

/-- What every object has under names of its own. None of it is a value. -/
def objectMembers : List String :=
  ["__class__", "__delattr__", "__dir__", "__eq__", "__format__", "__ge__",
   "__getattribute__", "__getstate__", "__gt__", "__hash__", "__init__",
   "__init_subclass__", "__le__", "__lt__", "__ne__", "__new__", "__reduce__",
   "__reduce_ex__", "__repr__", "__setattr__", "__sizeof__", "__str__",
   "__subclasshook__"]

/-- What a generated class has besides, and is no value. -/
def classMembers (plan : Plan) : List String :=
  ["_abc_impl", "_references", "_release_program", "__abstractmethods__",
   "__annotations__", "__enter__", "__exit__", "__generated_code__", "compile",
   "compile_shader", "dispose", "get_parameter", "get_parameter_location",
   "get_shader_id", "get_uniform_names", "implementation_supports_shaders",
   "pass_uniforms", "recompile", "set_parameter", "use_shader"] ++
  (if plan.options.reload then ["_load_shaders"] else []) ++
  (if plan.uniforms.isEmpty then [] else ["_UNIFORMS"])

/-- The module that a class is loaded into. -/
def moduleName : String := "generated_wrapper"

/-- The fields that are an instance's own. -/
def ownFields (i : Instance) : List (String × Value) :=
  ("transpose_matrix", i.transpose) ::
  i.fields.map (fun (id, stored) => ("uniform_" ++ id, stored.value)) ++
  match i.ownProgram with
  | some program => [("_program_id", .int program)]
  | none => []

/-- The table from the names of variables to the fields of their locations. -/
def locationTable (plan : Plan) : List (String × Value) :=
  plan.located.foldl
    (fun t (name, id) => Table.insert name (.text ("_loc_" ++ id)) t) []

/-- The fields that all instances share. -/
def sharedFields (plan : Plan) (s : Shared) : List (String × Value) :=
  [ ("_program_id", Value.int s.program),
    ("_LOCATIONS", .dict (locationTable plan)),
    ("__module__", .text moduleName),
    ("__slots__", .tuple []),
    ("__weakref__", .none),
    ("__doc__",
      match s.documentation with
      | some text => .text text
      | none => .none) ] ++
  (if plan.uniforms.isEmpty then [("_UNIFORMS", Value.dict [])] else []) ++
  s.locations.map (fun (id, location) => ("_loc_" ++ id, Value.int location)) ++
  s.sources.map (fun (id, text) => ("_" ++ id ++ "_source", Value.text text))

/-- The error of a field that holds no value, or is not there. -/
def fieldError (plan : Plan) (name : String) : Error :=
  if objectMembers.contains name || (classMembers plan).contains name then
    .noValue name
  else
    .unknownAttribute
      s!"'{knownName plan}' object has no attribute '{name}'"

/-- Reads a field. What is an instance's own comes before what is shared. -/
def getField (gl : GL.Device σ) (plan : Plan) (self name : String) :
    Work σ Value := do
  if name == "is_supported" then return .bool (← isSupported gl plan)
  let own := ownFields (← instanceOf plan self)
  if name == "__dict__" then return .dict own
  match (own ++ sharedFields plan (← shared)).lookup name with
  | some value => return value
  | none => Act.fail (fieldError plan name)

/-- Sets the transpose flag of an instance. -/
def setTranspose (plan : Plan) (self : String) (value : Value) :
    Work σ Unit := do
  let i ← instanceOf plan self
  keep self { i with transpose := value }

end ShaderBindings.Binding
