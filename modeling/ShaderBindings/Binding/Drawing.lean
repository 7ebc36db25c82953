import ShaderBindings.Binding.ClassName

/-!
# Drawing

Making the program current with its textures and attributes, and passing the
values of an instance to it.
-/

namespace ShaderBindings.Binding

variable {σ : Type}

/-- The value of a uniform. -/
def fieldOf (i : Instance) (u : PlannedUniform) : Stored :=
  (i.fields.lookup u.id).getD u.type.defaultValue

/-- How a stored value is passed to a uniform of a type. A value of another
form is not passed; storing lets none arise. -/
def uploadOf? (type : UniformType) (transpose : Value) (stored : Stored) :
    Option GL.Upload :=
  match type, stored with
  | .scalar .bool, .bool b => some (.bool b)
  | .scalar .int, .int n => some (.int n)
  | .scalar .uint, .int n => some (.uint n)
  | .scalar .float, .float x => some (.float x)
  | .scalar .double, .float x => some (.double x)
  | .vector n e, .array a => some (.vector n e a)
  | .matrix r c e, .array a => some (.matrix r c e transpose a)
  | _, _ => none

/-- The call that passes a uniform: a texture's unit, or the value. -/
def passCall? (s : Shared) (i : Instance) (u : PlannedUniform) :
    Option GL.Call :=
  let location := locationOf s u.id
  match u.unit with
  | some unit => some (.passUnit location unit)
  | none =>
    (uploadOf? u.type i.transpose (fieldOf i u)).map (.passUniform location)

/-- Makes calls one after the other. -/
def performAll (gl : GL.Device σ) (calls : List GL.Call) : Work σ Unit :=
  Act.each (fun call => do let _ ← gl.perform call) calls

/-- Truth values are passed as integers. A class that hides the name of that
conversion does not get past such a uniform. -/
def isBlocked (plan : Plan) (u : PlannedUniform) : Bool :=
  hides plan "int" && u.type == .scalar .bool

/-- Passes the value of every uniform, in order. -/
def passUniforms (gl : GL.Device σ) (plan : Plan) (self : String) :
    Work σ Unit := do
  let s ← shared
  let i ← instanceOf plan self
  let (passed, blocked) := plan.uniforms.span fun u => !isBlocked plan u
  performAll gl (passed.filterMap (passCall? s i))
  if !blocked.isEmpty then Act.fail (.hiddenName "int")

/-- The calls that bind a texture to its unit. -/
def textureCalls (i : Instance) (u : PlannedUniform) : List GL.Call :=
  match u.unit, fieldOf i u with
  | some unit, .texture t => [.activeTexture unit, .bindTexture t.target t.id]
  | _, _ => []

/-- Makes the program current, binds the textures to their units, and enables
the attributes. -/
def useShader (gl : GL.Device σ) (plan : Plan) (self : String) :
    Work σ Unit := do
  reach plan .useShader "_program_id" []
  let program ← seenProgram plan .useShader self
  let s ← shared
  let i ← instanceOf plan self
  performAll gl (
    .useProgram program ::
    plan.textures.flatMap (textureCalls i) ++
    plan.attributes.map fun a => .enableAttribute (locationOf s a.id))

end ShaderBindings.Binding
