import ShaderBindings.Listing
import ShaderBindings.Plan

/-!
# The heading of a generated module

The notice, the imports, and the list of exported names.
-/

namespace ShaderBindings.ModuleText

open Text (literal)

/-- The tool that generated modules name. -/
def toolName : String := "glslwrap"

/-- The version of the tool. -/
def toolVersion : String := "0.1.0"

/-- The qualified name of the class. -/
def qualifiedName (o : Options) : String :=
  s!"{o.package}.{o.className}"

/-- Everything above the class. -/
def heading (version : String) (plan : Plan) : List Item :=
  let o := plan.options
  [ Item.line "# <auto-generated>",
    .line s!"#     This code was generated by {toolName} {version}.",
    .line "#",
    .line ("#     Changes to this file may cause incorrect behavior and " ++
      "will be lost if"),
    .line "#     the code is regenerated.",
    .line "# </auto-generated>",
    .line s!"\"\"\"OpenGL shader wrapper {qualifiedName o}.\"\"\"",
    .blank,
    .line "from collections.abc import Iterator" ] ++
  (if o.reload then [Item.line "from pathlib import Path"] else []) ++
  [Item.blank] ++
  (if plan.usesArrays then [Item.line "import numpy as np"] else []) ++
  [ Item.line "from loguru import logger",
    .blank,
    .line "from glslwrap import runtime",
    .line "from glslwrap.runtime import gl as GL",
    .blank,
    .line s!"__all__ = [{literal o.className}]" ]

end ShaderBindings.ModuleText
