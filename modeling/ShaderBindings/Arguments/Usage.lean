/-!
# Help

What is printed when help is asked for.
-/

namespace ShaderBindings.Arguments

/-- The lines of the help text. -/
def usageLines : List String :=
  ["Arguments: (May be prefixed with - or /)",
   "  - r : Reloads the shader from files in the current directory " ++
     "whenever the shader is compiled",
   "  - s : Embeds the shader as strings in the output file (this is " ++
     "the default)",
   "  - out=[filename] : Sets the output file (The default is to use " ++
     "the first input file's name)",
   "  - name=[string] : Sets the name of the shader (This will be the " ++
     "name of the output class)",
   "  - [filename] : One of the files to compile as a shader stage " ++
     "(The stage of the shader is inferred from the extension)",
   "  - vert=[filename] : Compiles the file as a vertex shader",
   "  - frag=[filename] : Compiles the file as a fragment shader",
   "  - geom=[filename] : Compiles the file as a geometry shader",
   "  - tessEval=[filename] : Compiles the file as a tesselation " ++
     "evaluation shader",
   "  - tessControl=[filename] : Compiles the file as a tesselation " ++
     "control shader",
   "  - compute=[filename] : Compiles the file as a compute shader " ++
     "(This option cannot be specified with any of the other file types)",
   "  - namespace=[string] : Sets the namespace of the shader (The " ++
     "default is 'Shaders')",
   "  - contextVersion=[version] : Set the OpenGL context version. " ++
     "The minimum and default versions are 3.0."]

/-- The help text. -/
def usage : String :=
  "\n".intercalate usageLines

/-- The first argument asks for help. -/
def isHelpRequest (args : List String) : Bool :=
  match args with
  | arg :: _ => arg == "-help" || arg == "/help"
  | [] => false

end ShaderBindings.Arguments
