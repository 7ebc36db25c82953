import ShaderBindings.Session
import ShaderBindings.Spec

/-!
# Active variables

The uniforms and attributes of a linked program, in the order in which the
driver reports them.
-/

namespace ShaderBindings.Introspection

variable {σ : Type}

/-- The size of the buffer for a name. Longer names are cut. -/
def nameSize : Int := 512

/-- A reported name and type. -/
def variableOf (reply : RawText × Int) : Variable :=
  ⟨reply.1.decoded, reply.2⟩

/-- The active attributes of a program. -/
def attributes (gl : GL.Device σ) (size program : Int) :
    Act (Session σ) (List Variable) := do
  let count ← gl.perform (.attributeCount program)
  Act.collect (fun (i : Nat) => do
    return variableOf (← gl.perform (.activeAttribute program i size)))
    (List.range count)

/-- The active uniforms of a program. -/
def uniforms (gl : GL.Device σ) (size program : Int) :
    Act (Session σ) (List Variable) := do
  let count ← gl.perform (.uniformCount program)
  Act.collect (fun (i : Nat) => do
    return variableOf (← gl.perform (.activeUniform program i size)))
    (List.range count)

/-- The active uniforms and attributes; the attributes are asked for first. -/
def run (gl : GL.Device σ) (size program : Int) :
    Act (Session σ) (List Variable × List Variable) := do
  let attributes ← attributes gl size program
  let uniforms ← uniforms gl size program
  Session.info (s!"Program {program}: {uniforms.length} active uniform(s), " ++
    s!"{attributes.length} active attribute(s)")
  return (uniforms, attributes)

end ShaderBindings.Introspection
