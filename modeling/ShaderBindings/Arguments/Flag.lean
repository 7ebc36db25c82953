import ShaderBindings.File.Access
import ShaderBindings.Log
import ShaderBindings.Version.Reading

/-!
# Single arguments

What one argument of the command line asks for. An argument that cannot be used
is a problem of its own, and no reason to give up the others; only a file that
is no text, and a number that is too long, end everything.
-/

namespace ShaderBindings.Arguments

open File

/-- What an argument asks for. -/
inductive Request
  | stage (stage : Stage)
  | reload (reload : Bool)
  | output (path : Path)
  | className (name : String)
  | package (name : String)
  | contextVersion (version : Version)
  deriving DecidableEq, Repr

/-- Why an argument is skipped. -/
inductive Problem
  | refused (argument reason : String)
  | unreadable (fault : File.Fault)
  deriving DecidableEq, Repr

namespace Problem

/-- The words for a problem. -/
def warning : Problem → String
  | refused argument reason => (Error.argument argument reason).message
  | unreadable fault =>
    s!"Error: File \"{fault.path}\" could not be read ({fault.cause.words})"

/-- The log entry for a problem. -/
def entry (p : Problem) : Log.Entry :=
  match p with
  | refused .. => ⟨.warning, s!"{p.warning}, argument will be ignored"⟩
  | unreadable _ => ⟨.error, p.warning⟩

end Problem

/-- What comes of reading an argument. -/
inductive Verdict
  | accepted (request : Request)
  | skipped (problem : Problem)
  | aborted (error : Error)
  deriving DecidableEq, Repr

/-- An error in reading an argument: some are problems of the argument. -/
def Verdict.ofError : Error → Verdict
  | .argument arg reason => .skipped (.refused arg reason)
  | .file fault => .skipped (.unreadable fault)
  | e => .aborted e

/-- The verdict on a request that may be an error. -/
def Verdict.ofExcept : Except Error Request → Verdict
  | .ok request => .accepted request
  | .error e => .ofError e

/-! ## Texts -/

/-- The text without one pair of double quotes around it. -/
def trimQuotes (s : String) : String :=
  match s.toList with
  | '"' :: rest =>
    match rest.getLast? with
    | some '"' => .ofList rest.dropLast
    | _ => s
  | _ => s

/-- The flags that name the stage of a file. -/
def stageFlags : List (String × StageKind) :=
  [("vert", .vertex), ("frag", .fragment), ("geom", .geometry),
   ("tessEval", .tessEval), ("tessControl", .tessControl),
   ("compute", .compute)]

/-- The ends of file names that tell the stage, in lower case. -/
def stageExtensions : List (String × StageKind) :=
  [(".vert", .vertex), (".frag", .fragment), (".geom", .geometry),
   (".tesseval", .tessEval), (".tesscontrol", .tessControl),
   (".compute", .compute), (".vs", .vertex), (".fs", .fragment),
   (".gs", .geometry)]

/-- The stage that the end of a path tells, in any case of letters. The letters
of the ends have no other lower-case forms than those of ASCII. -/
def stageOfPath? (path : String) : Option StageKind :=
  let lower := path.toList.map Char.toLower
  (stageExtensions.find? fun e => e.1.toList.isSuffixOf lower).map Prod.snd

/-- The stage that the end of a path tells. -/
def stageOfPath (path : String) : Except Error StageKind :=
  match stageOfPath? path with
  | some kind => .ok kind
  | none => .error (.argument path
      "unable to determine the shader stage of the file")

/-- Runs of letters and digits of ASCII, in order. `word` holds the letters of
the run that is being read, the last one first. -/
def wordsFrom (word : List Char) : List Char → List (List Char)
  | [] => if word.isEmpty then [] else [word.reverse]
  | c :: rest =>
    if c.isAlphanum then wordsFrom (c :: word) rest
    else if word.isEmpty then wordsFrom [] rest
    else word.reverse :: wordsFrom [] rest

/-- The word with a capital at its front. -/
def capitalize : List Char → List Char
  | [] => []
  | c :: rest => c.toUpper :: rest

/-- The class name that the name of a file suggests: the words before its first
dot, each with a capital, and if that is no class name, the same after a word
that makes it one. -/
def defaultClassName (path : String) : String :=
  let stem := (Path.ofText path).name.toList.takeWhile (· != '.')
  let name := String.ofList ((wordsFrom [] stem).flatMap capitalize)
  if isClassName name then name else s!"Shader{name}"

/-! ## Reading an argument -/

/-- The stage in a file. -/
def readStage (fs : System) (path : String) (kind : StageKind) :
    Except Error Request := do
  return .stage ⟨path, kind, ← fs.readText (.ofText path)⟩

/-- The argument is a flag. With a slash at the front it is one unless there is
a file of that name. -/
def isFlag (fs : System) (arg : String) : Except Error Bool :=
  match arg.toList.head? with
  | some '/' => (fs.pathExists (.ofText (trimQuotes arg))).map (!·)
  | some '-' => .ok true
  | _ => .ok false

/-- A key and the text after the first equals sign, if there is one. -/
def splitOption (option : List Char) : String × Option String :=
  match option.span (· != '=') with
  | (key, _ :: value) => (.ofList key, some (.ofList value))
  | (key, []) => (.ofList key, none)

/-- What a flag with a value asks for. -/
def readSetting (fs : System) (arg key value : String) :
    Except Error Request :=
  match stageFlags.lookup key with
  | some kind => readStage fs value kind
  | none =>
    match key with
    | "out" => .ok (.output (.ofText value))
    | "name" =>
      if isClassName value then .ok (.className value)
      else .error (.argument arg
        ("the shader name must be a valid identifier that the " ++
          "generated module does not import"))
    | "namespace" =>
      if Text.isDottedName value then .ok (.package value)
      else .error (.argument arg "the namespace must be a dotted name")
    | "contextVersion" => (Version.ofText value).map .contextVersion
    | _ => .error (.argument arg "unknown argument")

/-- What a flag asks for. Its mark, a dash or a slash, has no meaning. -/
def readFlag (fs : System) (arg : String) : Except Error Request :=
  match splitOption arg.toList.tail with
  | ("r", none) => .ok (.reload true)
  | ("s", none) => .ok (.reload false)
  | (_, none) => .error (.argument arg "unknown argument")
  | (key, some value) => readSetting fs arg key (trimQuotes value)

/-- What a path asks for. -/
def readFile (fs : System) (arg : String) : Except Error Request := do
  let path := trimQuotes arg
  readStage fs path (← stageOfPath path)

/-- What an argument asks for. -/
def read (fs : System) (arg : String) : Verdict :=
  .ofExcept do
    if ← isFlag fs arg then readFlag fs arg else readFile fs arg

end ShaderBindings.Arguments
