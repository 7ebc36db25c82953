import ShaderBindings.Watch

/-!
# Execution of a command line

The way from the words of a command line to an exit code and a printed text.
-/

namespace ShaderBindings.Command

variable {σ : Type}

/-- The exit code, and what is printed. -/
structure Outcome where
  code : Int
  output : String := ""
  deriving DecidableEq, Repr

/-- Runs a command. -/
def runCommand (devices : Devices σ) (time : String)
    (turns : List (List Watch.Happening)) (name : Name)
    (interval : Number.Binary .double) (args : List String) :
    Watch.Work σ Outcome := do
  if Arguments.isHelpRequest args then
    return { code := 0, output := Arguments.usage ++ "\n" }
  match name with
  | .compile => return { code := ← Act.onFirst (compile devices args) }
  | .watch =>
    return { code := ← Watch.run devices time args interval turns }

/-- Executes the words of a command line. `time` is shown in the messages of a
watcher, and `turns` are what happens while it sleeps. -/
def execute (devices : Devices σ) (time : String)
    (turns : List (List Watch.Happening)) (words : List String) :
    Watch.Work σ Outcome :=
  match Line.ofWords words with
  | .malformed => return { code := usageCode }
  | .help => return { code := 0 }
  | .run name interval args =>
    runCommand devices time turns name interval args

end ShaderBindings.Command
