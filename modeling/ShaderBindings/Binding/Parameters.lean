import ShaderBindings.Binding.ClassName

/-!
# Parameters

Storing and reading the values of uniforms, and the locations of variables. Of
several variables with one name the last is meant.
-/

namespace ShaderBindings.Binding

variable {σ : Type}

/-- The uniform of a name. -/
def uniformNamed? (plan : Plan) (name : String) : Option PlannedUniform :=
  plan.uniforms.reverse.find? fun u => u.name == name

/-- The uniform of a name. -/
def uniformNamed (plan : Plan) (name : String) :
    Except Error PlannedUniform :=
  match uniformNamed? plan name with
  | some u => .ok u
  | none => .error (lookupError plan (.unknownUniform name))

/-- A failed conversion as the error of storing a value. A number out of the
range of arithmetic is an error of its own. -/
def storeError (name : String) (value : Value) (fault : Conversion.Fault) :
    Error :=
  match fault.category with
  | .type | .value => .notStored name value.typeName fault
  | .range => .conversion fault

/-- The parameter that holds the name of a variable. -/
def holdsName : String × String :=
  ("name", "'str' object")

/-- Stores a value for a uniform. -/
def setParameter (plan : Plan) (self name : String) (value : Value) :
    Work σ Unit := do
  reach plan .setParameter "_UNIFORMS"
    [holdsName, ("value", s!"'{value.qualifiedTypeName}' object")]
  let u ← Act.ofExcept (uniformNamed plan name)
  let stored ← Act.ofExcept
    ((u.type.converter.convert value).mapError (storeError name value))
  let i ← instanceOf plan self
  keep self { i with fields := Table.insert u.id stored i.fields }

/-- The type that a reader expects. -/
inductive Expected
  | float
  | int
  | bool
  | text
  | anything
  | array
  | texture
  deriving DecidableEq, Repr

/-- The name of an expected type. -/
def Expected.name : Expected → String
  | float => "float"
  | int => "int"
  | bool => "bool"
  | text => "str"
  | anything => "object"
  | array => "ndarray"
  | texture => "Texture"

/-- The name of an expected type with the library that it belongs to. -/
def Expected.qualifiedName : Expected → String
  | array => "numpy.ndarray"
  | type => type.name

/-- What the parameter for the expected type holds. -/
def holdsExpected (expected : Option Expected) : String × String :=
  ("expected_type",
    match expected with
    | none => "'NoneType' object"
    | some type => s!"type object '{type.qualifiedName}'")

/-- A stored value is of an expected type. A truth value is an integer too. -/
def Expected.holds : Expected → Stored → Bool
  | anything, _ => true
  | float, .float _ | int, .int _ | int, .bool _ | bool, .bool _
  | array, .array _ | texture, .texture _ => true
  | _, _ => false

/-- The value of a uniform, which must be of the expected type, if any. -/
def getParameter (plan : Plan) (self name : String)
    (expected : Option Expected) : Work σ Stored := do
  reach plan .getParameter "_UNIFORMS" [holdsName, holdsExpected expected]
  let u ← Act.ofExcept (uniformNamed plan name)
  let i ← instanceOf plan self
  let stored := (i.fields.lookup u.id).getD u.type.defaultValue
  match expected with
  | none => return stored
  | some type =>
    if type.holds stored then return stored
    else Act.fail (.notLoaded name type.name)

/-- The identifier of the variable of a name. -/
def identifierNamed? (plan : Plan) (name : String) : Option String :=
  plan.located.reverse.lookup name

/-- The location of the variable of a name. -/
def getLocation (plan : Plan) (name : String) : Work σ Int := do
  reach plan .getLocation "_LOCATIONS" [holdsName]
  match identifierNamed? plan name with
  | some id =>
    if hides plan "getattr" then Act.fail (.hiddenName "getattr")
    return locationOf (← shared) id
  | none => Act.fail (lookupError plan (.unknownParameter name))

/-- The names of the uniforms, in order. -/
def uniformNames (plan : Plan) : List String :=
  plan.uniforms.map fun u => u.name

/-! ## Without errors -/

/-- The error says that a name or a value does not fit the parameters. -/
def isRefusal : Error → Bool
  | .unknownUniform _ | .unknownParameter _ | .notStored .. | .notLoaded .. =>
    true
  | _ => false

/-- Stores a value if it can be stored, and tells whether it was. -/
def trySetParameter (plan : Plan) (self name : String) (value : Value) :
    Work σ Bool := do
  match ← Act.attempt (setParameter plan self name value) with
  | .ok () => return true
  | .error e => if isRefusal e then return false else Act.fail e

/-- The location of the variable of a name; -1 if there is none. -/
def findLocation (plan : Plan) (name : String) : Work σ Int := do
  match ← Act.attempt (getLocation plan name) with
  | .ok location => return location
  | .error (.unknownParameter _) => return -1
  | .error e => Act.fail e

end ShaderBindings.Binding
