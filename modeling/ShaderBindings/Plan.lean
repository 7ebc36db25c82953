import ShaderBindings.Spec
import ShaderBindings.UniformType.Native

/-!
# Plans

A plan is a specification with everything decided that the generated module
needs: the type of each uniform, a distinct identifier for each variable and
each stage, and a texture unit for each texture.
-/

namespace ShaderBindings

/-- A uniform of the generated class. -/
structure PlannedUniform where
  name : String
  id : String
  type : UniformType
  /-- The texture unit, of a texture. -/
  unit : Option Nat
  deriving DecidableEq, Repr

/-- A vertex attribute of the generated class. -/
structure PlannedAttribute where
  name : String
  id : String
  deriving DecidableEq, Repr

/-- A stage of the generated class. -/
structure PlannedStage where
  stage : Stage
  id : String
  deriving DecidableEq, Repr

/-- All that a generated module says. -/
structure Plan where
  options : Options
  uniforms : List PlannedUniform
  attributes : List PlannedAttribute
  stages : List PlannedStage
  deriving DecidableEq, Repr

/-- A variable whose code stands for no uniform type. -/
structure UnsupportedType where
  tag : Int
  name : Option String
  deriving DecidableEq, Repr

namespace UnsupportedType

/-- A code in base sixteen, in at least four places with its sign. -/
def codeText (tag : Int) : String :=
  let digits := (Text.hexPadded (if tag < 0 then 3 else 4) tag.natAbs).toList
  .ofList ('0' :: 'x' :: (if tag < 0 then ['-'] else []) ++
    digits.map Char.toUpper)

/-- The words for the error: the tag by its name if it has one, and the
variable if it has a name. -/
def message (e : UnsupportedType) : String :=
  let label :=
    match TypeTag.ofCode? e.tag with
    | some tag => tag.name
    | none => codeText e.tag
  let place :=
    match e.name with
    | none | some "" => ""
    | some name => s!" (uniform '{name}')"
  s!"Type: {label}{place} is not supported at this time."

end UnsupportedType

/-! ## Identifiers -/

/-- The name with an underscore for each character that no identifier of ASCII
holds. -/
def identifierOf (name : String) : String :=
  .ofList (name.toList.map fun c => if Text.isWordChar c then c else '_')

/-- The `n`-th name derived from a base. -/
def numbered (base : String) (n : Nat) : String :=
  s!"{base}_{n}"

/-- The first of `numbered base n`, `numbered base (n + 1)`, … that is not
taken, among the next `count`. -/
def firstFree (taken : List String) (base : String) (n : Nat) : Nat → String
  | 0 => numbered base n
  | count + 1 =>
    if taken.contains (numbered base n) then
      firstFree taken base (n + 1) count
    else numbered base n

/-- The base if it is free, and otherwise the base with the least number from
two on that makes it free. Of one more candidate than there are names taken,
one is free. -/
def uniqueName (taken : List String) (base : String) : String :=
  if taken.contains base then firstFree taken base 2 taken.length else base

/-- A distinct name for each base, none of them taken: each item gets the
unique name of its base after the items before it. -/
def uniqueNames (taken : List String) : List String → List String
  | [] => []
  | base :: rest =>
    let name := uniqueName taken base
    name :: uniqueNames (name :: taken) rest

/-! ## Plans from specifications -/

namespace Plan

/-- The type of each uniform; the first that has none is the error. -/
def resolve : List Variable → Except UnsupportedType (List UniformType)
  | [] => .ok []
  | v :: rest =>
    match UniformType.ofCode? v.tag with
    | none => .error ⟨v.tag, some v.name⟩
    | some t => (resolve rest).map (t :: ·)

/-- The uniforms with their identifiers and types. The textures get the units
from `unit` on, in order. -/
def placeUniforms (unit : Nat) :
    List Variable → List String → List UniformType → List PlannedUniform
  | v :: vs, id :: ids, t :: ts =>
    if t = .texture then
      ⟨v.name, id, t, some unit⟩ :: placeUniforms (unit + 1) vs ids ts
    else ⟨v.name, id, t, none⟩ :: placeUniforms unit vs ids ts
  | _, _, _ => []

/-- The plan of a specification. -/
def ofSpec (spec : Spec) : Except UnsupportedType Plan := do
  let types ← resolve spec.uniforms
  let ids := uniqueNames []
    ((spec.uniforms ++ spec.attributes).map fun v => identifierOf v.name)
  let stageIds := uniqueNames [] (spec.stages.map fun s => s.kind.stem)
  return {
    options := spec.options
    uniforms := placeUniforms 0 spec.uniforms ids types
    attributes :=
      (spec.attributes.zip (ids.drop spec.uniforms.length)).map
        fun (v, id) => ⟨v.name, id⟩
    stages := (spec.stages.zip stageIds).map fun (s, id) => ⟨s, id⟩ }

/-- The uniforms that are textures, in order. -/
def textures (plan : Plan) : List PlannedUniform :=
  plan.uniforms.filter fun u => u.unit.isSome

/-- Some uniform holds an array. -/
def usesArrays (plan : Plan) : Bool :=
  plan.uniforms.any fun u => u.type.isArray

/-- Names and identifiers of what has a location: the uniforms, then the
attributes. -/
def located (plan : Plan) : List (String × String) :=
  plan.uniforms.map (fun u => (u.name, u.id)) ++
  plan.attributes.map (fun a => (a.name, a.id))

end Plan

end ShaderBindings
