import ShaderBindings.Conversion
import ShaderBindings.File.Access
import ShaderBindings.ModuleText.Heading
import ShaderBindings.References
import ShaderBindings.Table

/-!
# The state of a binding

A binding is the generated class at work: what its instances share, what each
of them holds, and the files that stages may be read from. Everything the class
knows from its generation is in the plan.
-/

namespace ShaderBindings.Binding

/-- Where a class comes from: the tool that generated it, the version of the
tool, and the package it is recorded under. -/
structure Provenance where
  tool : String
  version : String
  package : String
  deriving DecidableEq, Repr

/-- Where the class of a plan comes from. -/
def provenance (version : String) (plan : Plan) : Provenance :=
  ⟨ModuleText.toolName, version, plan.options.package⟩

/-- What all instances share. -/
structure Shared where
  /-- The program; zero if there is none. -/
  program : Int := 0
  references : References := {}
  /-- The location of each variable, by its identifier. -/
  locations : List (String × Int)
  /-- The text of each stage, by its identifier. -/
  sources : List (String × String)
  /-- What the class says about itself. -/
  documentation : Option String := none
  deriving DecidableEq, Repr

/-- What an instance holds: its transpose flag, and the value of each uniform
by its identifier. -/
structure Instance where
  transpose : Value
  fields : List (String × Stored)
  /-- A program of its own, which hides the shared one from it. Only a class
  that is called like the instance inside its methods gives it one. -/
  ownProgram : Option Int := none

/-- A binding with its instances, by their names. -/
structure State where
  shared : Shared
  instances : List (String × Instance) := []
  files : File.System := {}

/-- What is shared before anything has been compiled. Texts that are to be read
from files are not there yet. -/
def Shared.initial (plan : Plan) : Shared where
  locations := plan.located.map fun (_, id) => (id, -1)
  sources :=
    if plan.options.reload then []
    else plan.stages.map fun s => (s.id, s.stage.text)

/-- A new instance. -/
def Instance.initial (plan : Plan) : Instance where
  transpose := .bool plan.options.transpose
  fields := plan.uniforms.map fun u => (u.id, u.type.defaultValue)

variable {σ : Type}

/-- Acts on a binding. -/
abbrev Work (σ α : Type) := Act (Session σ × State) α

/-- What is shared. -/
def shared : Work σ Shared := do
  return (← Act.get).2.shared

/-- Changes what is shared. -/
def share (f : Shared → Shared) : Work σ Unit :=
  Act.onSecond (Act.modify fun b => { b with shared := f b.shared })

/-- The place of the reference count. -/
def references : Place State References where
  get := fun b => b.shared.references
  set := fun r b => { b with shared := { b.shared with references := r } }

/-- The instance of a name. A name without an instance stands for a new one. -/
def instanceOf (plan : Plan) (self : String) : Work σ Instance := do
  return ((← Act.get).2.instances.lookup self).getD (.initial plan)

/-- Replaces the instance of a name. -/
def keep (self : String) (i : Instance) : Work σ Unit :=
  Act.onSecond (Act.modify fun b =>
    { b with instances := Table.insert self i b.instances })

/-- Makes an instance. -/
def create (plan : Plan) (self : String) : Work σ Unit :=
  keep self (.initial plan)

/-- The location of the variable with an identifier. -/
def locationOf (s : Shared) (id : String) : Int :=
  (s.locations.lookup id).getD (-1)

end ShaderBindings.Binding
