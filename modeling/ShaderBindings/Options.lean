import ShaderBindings.Text.Identifier
import ShaderBindings.Text.Literal

/-!
# Generation options

How a module of bindings is generated, and which names it may be given.
-/

namespace ShaderBindings

/-- The options of a generated module. -/
structure Options where
  /-- The dotted package that the class is recorded under. -/
  package : String := "Shaders"
  /-- The name of the class. -/
  className : String := "Shader"
  /-- Stages are read from their files whenever the program is compiled, instead
  of being part of the module. -/
  reload : Bool := false
  /-- The first value of each instance's transpose flag. -/
  transpose : Bool := false
  deriving DecidableEq, Repr

/-- The names that a generated module imports. The class must not take one. -/
def importedNames : List String :=
  ["GL", "Iterator", "Path", "logger", "np", "runtime"]

/-- A name that the generated class may have. -/
def isClassName (name : String) : Bool :=
  Text.isName name && !importedNames.contains name

namespace Options

/-- What is wrong with options. -/
inductive Fault
  | className (name : String)
  | importedName (name : String)
  | package (name : String)
  deriving DecidableEq, Repr

/-- The words for a fault. -/
def Fault.message : Fault → String
  | .className name => s!"Invalid class name: {Text.literal name}"
  | .importedName name =>
    s!"Invalid class name: {Text.literal name} shadows a name " ++
      "imported by the generated module"
  | .package name => s!"Invalid namespace: {Text.literal name}"

/-- The first fault of the options, the class name being looked at first. -/
def check (o : Options) : Except Fault Unit :=
  if !Text.isName o.className then .error (.className o.className)
  else if importedNames.contains o.className then
    .error (.importedName o.className)
  else if !Text.isDottedName o.package then .error (.package o.package)
  else .ok ()

end Options

end ShaderBindings
