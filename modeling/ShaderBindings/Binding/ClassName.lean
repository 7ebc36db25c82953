import ShaderBindings.Binding.State
import ShaderBindings.Text.NormalForm

/-!
# The name of the class

The methods of a class refer to it by its name. That is the class, unless the
name is private to the class, or a parameter or a variable of the method has the
very same name. A few methods also use a built-in name, which the class hides if
it is called like that. Names are the same if their normal forms are.
-/

namespace ShaderBindings.Binding

/-- The methods that refer to the class by its name. -/
inductive Method
  | compileShader
  | releaseProgram
  | compile
  | recompile
  | dispose
  | setParameter
  | getParameter
  | getLocation
  | useShader
  | shaderId
  | support
  deriving DecidableEq, Repr

namespace Method

/-- The names of a method's parameters. Two methods belong to the class, and
have none; the others are called on an instance. -/
def parameters : Method → List String
  | compileShader | releaseProgram => []
  | setParameter => ["self", "name", "value"]
  | getParameter => ["self", "name", "expected_type"]
  | getLocation => ["self", "name"]
  | compile | recompile | dispose | useShader | shaderId | support => ["self"]

/-- The variable that holds the handle of a stage while it is compiled. -/
def handleVariable (s : PlannedStage) : String :=
  s.id ++ "_shader"

/-- The names of a method's variables. -/
def ownVariables (plan : Plan) : Method → List String
  | compileShader => "program" :: plan.stages.map handleVariable
  | setParameter | getParameter => ["slot"]
  | getLocation => ["field"]
  | releaseProgram | compile | recompile | dispose | useShader | shaderId
  | support => []

end Method

/-- The name by which methods know the class: its normal form. -/
def knownName (plan : Plan) : String :=
  Text.normalForm plan.options.className

/-- The name that stands inside a class for a private one: two underscores at
its front and not at its end make a name private to the class, unless the class
has no name but underscores. -/
def privateName? (className : String) : Option String :=
  let letters := (Text.normalForm className).toList
  let bare := letters.dropWhile (· == '_')
  if letters.take 2 == ['_', '_'] && letters.reverse.take 2 != ['_', '_'] &&
      !bare.isEmpty then
    some (.ofList ('_' :: bare ++ letters))
  else none

/-- What the name of the class means inside a method. -/
inductive Meaning
  | theClass
  | theInstance
  /-- Another parameter, or a variable. -/
  | shadowed
  /-- Nothing, under the name that stands for it. -/
  | undefined (name : String)
  deriving DecidableEq, Repr

/-- What the name of the class means inside a method. -/
def Method.meaning (m : Method) (plan : Plan) : Meaning :=
  let name := knownName plan
  match privateName? plan.options.className with
  | some other => .undefined other
  | none =>
    if m.parameters.contains name then
      if name == "self" then .theInstance else .shadowed
    else if (m.ownVariables plan).contains name then .shadowed
    else .theClass

/-- A description of what the parameters and variables of a method hold at some
time, by their names. -/
abbrev Holdings := List (String × String)

/-- What keeps a method from the class when it asks the class for a field. -/
def hindrance? (plan : Plan) (m : Method) (field : String)
    (holdings : Holdings) : Option Error :=
  match m.meaning plan with
  | .theClass | .theInstance => none
  | .undefined name => some (.undefinedName name)
  | .shadowed =>
    match holdings.lookup (knownName plan) with
    | some holding =>
      some (.unknownAttribute s!"{holding} has no attribute '{field}'")
    | none => some (.unassignedName (knownName plan))

variable {σ : Type}

/-- Asks the class for a field, from inside a method. -/
def reach (plan : Plan) (m : Method) (field : String) (holdings : Holdings) :
    Work σ Unit :=
  match hindrance? plan m field holdings with
  | none => return ()
  | some e => Act.fail e

/-! ## Hidden names -/

/-- The class hides a built-in name. -/
def hides (plan : Plan) (name : String) : Bool :=
  knownName plan == name

/-- The error of an unknown name, which only a class that does not hide the
error of the look-up can tell. -/
def lookupError (plan : Plan) (e : Error) : Error :=
  if hides plan "KeyError" then .hiddenName "KeyError" else e

/-! ## The program as a method sees it -/

/-- The program that a method of an instance sees. It is the one that all share,
unless the class has the name of the instance, and the instance has a program of
its own. -/
def seenProgram (plan : Plan) (m : Method) (self : String) :
    Work σ Int := do
  let program := (← shared).program
  match m.meaning plan with
  | .theInstance => return (← instanceOf plan self).ownProgram.getD program
  | .theClass | .shadowed | .undefined _ => return program

/-- Forgets the program that a method of an instance sees. -/
def forgetProgram (plan : Plan) (m : Method) (self : String) :
    Work σ Unit := do
  match m.meaning plan with
  | .theInstance =>
    keep self { ← instanceOf plan self with ownProgram := some 0 }
  | .theClass | .shadowed | .undefined _ => share fun b => { b with program := 0 }

end ShaderBindings.Binding
