import ShaderBindings.Arguments.Flag
import ShaderBindings.Arguments.Usage

/-!
# The command line

What a whole command line asks for: its stages in order, and of each setting
the last one given. A class name and an output that are not given come from the
first stage.
-/

namespace ShaderBindings

/-- What a command line asks for. -/
structure Arguments where
  stages : List Stage := []
  output : Option File.Path := none
  className : String := "Shader"
  package : String := "Shaders"
  reload : Bool := false
  contextVersion : Version := ⟨3, 0⟩
  /-- The problems with arguments that were skipped, in order. -/
  problems : List Arguments.Problem := []
  deriving DecidableEq, Repr

namespace Arguments

/-- The requests of the arguments that are accepted, and the problems with
those that are skipped, up to one that ends everything. -/
def readAll (fs : File.System) :
    List String → Except Error (List Request) × List Problem
  | [] => (.ok [], [])
  | arg :: rest =>
    match read fs arg with
    | .aborted e => (.error e, [])
    | .skipped problem =>
      let (requests, problems) := readAll fs rest
      (requests, problem :: problems)
    | .accepted request =>
      let (requests, problems) := readAll fs rest
      (requests.map (request :: ·), problems)

/-- The last value that a kind of request gives. -/
def last {α : Type} (requests : List Request) (value? : Request → Option α) :
    Option α :=
  (requests.filterMap value?).getLast?

/-- The stages asked for. -/
def stagesOf (requests : List Request) : List Stage :=
  requests.filterMap fun | .stage s => some s | _ => none

/-- What requests amount to. -/
def ofRequests (requests : List Request) (problems : List Problem) :
    Except Error Arguments := do
  let stages := stagesOf requests
  let className := last requests fun | .className n => some n | _ => none
  let output := last requests fun | .output p => some p | _ => none
  let fallback ← match stages with
    | [] => pure none
    | first :: _ => do
      let path ← (File.Path.ofText first.path).withSuffix ".py"
      pure (some (defaultClassName first.path, path))
  return {
    stages
    output := output.or (fallback.map Prod.snd)
    className := className.getD ((fallback.map Prod.fst).getD "Shader")
    package :=
      (last requests fun | .package n => some n | _ => none).getD "Shaders"
    reload :=
      (last requests fun | .reload b => some b | _ => none).getD false
    contextVersion :=
      (last requests fun | .contextVersion v => some v | _ => none).getD
        ⟨3, 0⟩
    problems }

/-- Reads a command line, and gives the problems with its arguments even if it
cannot be used. -/
def parse (fs : File.System) (args : List String) :
    Except Error Arguments × List Problem :=
  let (requests, problems) := readAll fs args
  (requests.bind fun rs => ofRequests rs problems, problems)

/-- The options of the module that is asked for. -/
def options (a : Arguments) : Options where
  package := a.package
  className := a.className
  reload := a.reload

/-- The paths of the stages. -/
def stagePaths (a : Arguments) : List File.Path :=
  a.stages.map fun s => .ofText s.path

end Arguments

end ShaderBindings
