import ShaderBindings.ModuleText.Heading
import ShaderBindings.UniformType.Source

/-!
# The fields of a generated class

The documentation of the class, the fields that its instances share, the tables
that find a variable by its name, and the fields of an instance.
-/

namespace ShaderBindings.ModuleText

open Text (literal)

/-- The documentation of the class: its stages, uniforms and attributes. -/
def classDoc (plan : Plan) : List Item :=
  [ Item.line s!"\"\"\"Shader program {qualifiedName plan.options}.",
    .blank,
    .line "Stages:" ] ++
  plan.stages.map (fun s =>
    Item.line s!"    {s.id}: {s.stage.kind.constantName}") ++
  (if plan.uniforms.isEmpty then [] else [Item.line "Uniforms:"]) ++
  plan.uniforms.map (fun u => Item.line s!"    {u.name}: {u.type.spelling}") ++
  (if plan.attributes.isEmpty then [] else [Item.line "Attributes:"]) ++
  plan.attributes.map (fun a => Item.line s!"    {a.name}") ++
  [Item.line "\"\"\"", .blank]

/-- A table from names to values. -/
def mapping (name : String) (entries : List (String × String)) : List Item :=
  if entries.isEmpty then [.line s!"{name} = \x7b\x7d"]
  else
    [ .line s!"{name} = \x7b",
      .deeper (entries.map fun (key, value) =>
        .line s!"{literal key}: {value},"),
      .line "\x7d" ]

/-- The fields of the class. -/
def sharedFields (plan : Plan) : List Item :=
  [ Item.line "_program_id = 0",
    .line "_references: runtime.Counter",
    .blank ] ++
  plan.located.map (fun (_, id) => Item.line s!"_loc_{id} = -1") ++
  [Item.blank] ++
  plan.stages.map (fun s =>
    if plan.options.reload then Item.line s!"_{s.id}_source: str"
    else .line s!"_{s.id}_source = {literal s.stage.text}") ++
  [Item.blank] ++
  mapping "_UNIFORMS" (plan.uniforms.map fun u =>
    let field := "uniform_" ++ u.id
    (u.name,
      s!"runtime.UniformSlot({literal field}, {u.type.converterText})")) ++
  mapping "_LOCATIONS" (plan.located.map fun (name, id) =>
    (name, literal ("_loc_" ++ id))) ++
  [Item.blank]

/-- A truth value of the generated language. -/
def boolText (b : Bool) : String :=
  if b then "True" else "False"

/-- The fields of an instance. -/
def instanceFields (plan : Plan) : List Item :=
  [ .suite "def __init__(self) -> None" (
      .line s!"self.transpose_matrix = {boolText plan.options.transpose}" ::
      plan.uniforms.map (fun u =>
        .line (s!"self.uniform_{u.id}: {u.type.valueType} = " ++
          u.type.firstValue))),
    .blank ]

end ShaderBindings.ModuleText
