import ShaderBindings.Binding.Fields

/-!
# Proxies

A proxy gives access to the uniforms of an instance as if they were its own
fields and items.
-/

namespace ShaderBindings.Binding.Proxy

variable {σ : Type}

/-- An unknown uniform is an unknown field. -/
def asField {α : Type} (x : Work σ α) : Work σ α := do
  match ← Act.attempt x with
  | .ok a => return a
  | .error (.unknownUniform name) =>
    Act.fail (.unknownAttribute (Error.unknownUniform name).message)
  | .error e => Act.fail e

/-- The names under which a proxy has the instance itself. -/
def instanceNames : List String :=
  ["shader", "_shader"]

/-- What every proxy has besides, and is no value. -/
def members : List String :=
  ["__contains__", "__getattr__", "__getitem__", "__iter__", "__setitem__"] ++
  objectMembers

/-- What proxies say about themselves. -/
def documentation : String :=
  "Attribute-style access to the uniforms of a shader.\n\n    " ++
  "``ShaderProxy(shader).color = (1, 0, 0, 1)`` is ``shader.set_parameter(\n" ++
  "    \"color\", (1, 0, 0, 1))``. Uniform names that are not Python " ++
  "identifiers\n    are reachable through item access: " ++
  "``proxy[\"lights[0].color\"]``.\n    "

/-- The fields of every proxy that are values. -/
def ownFields : List (String × Value) :=
  [ ("__slots__", .tuple [.text "_shader"]),
    ("__module__", .text "glslwrap.runtime.shader"),
    ("__doc__", .text documentation) ]

/-- Reads a field. The fields of the proxy itself come first, and names with
two underscores in front are never uniforms. -/
def get (plan : Plan) (self name : String) : Work σ Value := do
  if instanceNames.contains name || members.contains name then
    Act.fail (.noValue name)
  match ownFields.lookup name with
  | some value => return value
  | none =>
    if name.toList.take 2 == ['_', '_'] then
      Act.fail (.unknownAttribute name)
    return (← asField (getParameter plan self name none)).value

/-- Assigns a field. -/
def set (plan : Plan) (self name : String) (value : Value) : Work σ Unit :=
  asField (setParameter plan self name value)

/-- Reads an item. -/
def item (plan : Plan) (self name : String) : Work σ Stored :=
  getParameter plan self name none

/-- Assigns an item. -/
def setItem (plan : Plan) (self name : String) (value : Value) :
    Work σ Unit :=
  setParameter plan self name value

/-- There is a uniform of the name. -/
def contains (plan : Plan) (name : String) : Bool :=
  (uniformNames plan).contains name

/-- The names that can be written as fields, in alphabetical order. -/
def fieldNames (plan : Plan) : List String :=
  ((uniformNames plan).filter Text.isIdentifier).mergeSort
    fun a b => !decide (b < a)

end ShaderBindings.Binding.Proxy
