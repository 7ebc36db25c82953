import ShaderBindings.Command
import ShaderBindings.Watch.Handler

/-!
# Watching stage files

The module is generated once, and again whenever a stage file has changed. An
observer reports changes to a handler; between two looks at the handler the
watcher sleeps. What happens while it sleeps is given as a list of turns.
-/

namespace ShaderBindings.Watch

open File

variable {σ : Type}

/-- What is asked of the observer. -/
inductive Observation
  | schedule (directory : String)
  | start
  | stop
  | join
  deriving DecidableEq, Repr

/-- Something that happens while the watcher sleeps. -/
inductive Happening
  /-- The files change. -/
  | change (f : System → Except Error System)
  | event (event : FileEvent)
  /-- The observer ends by itself. -/
  | observerEnds

/-- The state of watching. -/
structure State where
  handler : Handler := ⟨[], false⟩
  observerAlive : Bool := true
  observations : List Observation := []
  sleeps : List (Number.Binary .double) := []
  deriving DecidableEq, Repr

/-- What a watcher works on. -/
abbrev Work (σ α : Type) := Act ((Session σ × System) × State) α

/-- Changes the state of watching. -/
def note (f : State → State) : Work σ Unit :=
  Act.onSecond (Act.modify f)

/-- Asks something of the observer. -/
def observe (o : Observation) : Work σ Unit :=
  note fun w => { w with observations := w.observations ++ [o] }

/-- Lets the handler take note of an event. -/
def tell (event : FileEvent) : Work σ Unit := fun ((s, fs), w) =>
  match Handler.handle fs event (s, w.handler) with
  | (r, (s, handler)) => (r, ((s, fs), { w with handler }))

/-- Lets something happen. -/
def happen : Happening → Work σ Unit
  | .change f => Act.onFirst (Command.changeFiles f)
  | .event event => tell event
  | .observerEnds => note fun w => { w with observerAlive := false }

/-- Generates the module again, at a given time, and logs what came of it. -/
def rebuild (devices : Command.Devices σ) (time : String)
    (args : List String) : Command.Work σ Unit := do
  let result ← Act.attempt do
    Command.generate devices (← Command.readArguments args)
  match result with
  | .ok path =>
    Act.onFirst (Session.info s!"[{time}] Rebuilt {path.text}")
  | .error e =>
    if Command.isReported e then
      Act.onFirst (Session.error s!"[{time}] Rebuild failed: {e.message}")
    else Act.fail e

/-- Generates the module again if a stage file has changed. -/
def rebuildIfNeeded (devices : Command.Devices σ) (time : String)
    (args : List String) : Work σ Unit := do
  let (_, w) ← Act.get
  if w.handler.needsRebuild then
    note fun w => { w with handler.needsRebuild := false }
    Act.onFirst (rebuild devices time args)

/-- The directories of stage files, each once, in alphabetical order. -/
def directories (fs : System) (paths : List Path) :
    Except Error (List String) := do
  let texts := (← Handler.realPaths fs paths).map fun p => p.parent.text
  return texts.eraseDups.mergeSort fun a b => !decide (b < a)

/-- Lets an observer look after stage files. -/
def observePaths (paths : List Path) : Work σ Unit := do
  let ((_, fs), _) ← Act.get
  let handler ← Act.ofExcept (Handler.ofPaths fs paths)
  note fun w => { w with handler }
  let directories ← Act.ofExcept (directories fs paths)
  Act.each (fun d => observe (.schedule d)) directories
  observe .start
  Act.onFirst (Act.onFirst (Session.info
    "Watching for changes (press Ctrl+C to exit)..."))

/-- Generates the module once and starts to watch its stage files, if there are
any. -/
def begin (devices : Command.Devices σ) (time : String)
    (args : List String) : Work σ Bool := do
  let arguments ← Act.onFirst (Command.readArguments args)
  if arguments.stages.isEmpty then
    Act.onFirst (Act.onFirst (Session.error "No shader stages were given"))
    return false
  Act.onFirst (rebuild devices time args)
  observePaths arguments.stagePaths
  return true

/-- What happens in one sleep, and the look after it. -/
def turn (devices : Command.Devices σ) (time : String) (args : List String)
    (happenings : List Happening) : Work σ Unit := do
  Act.each happen happenings
  rebuildIfNeeded devices time args

/-- Sleeps and goes on, unless the observer has ended. -/
def sleep (interval : Number.Binary .double) (next : Work σ Unit) :
    Work σ Unit := do
  let (_, w) ← Act.get
  if w.observerAlive then
    note fun w => { w with sleeps := w.sleeps ++ [interval] }
    next

/-- Looks after every sleep, until the observer has ended or the last turn is
over; then the user interrupts. -/
def loop (devices : Command.Devices σ) (time : String) (args : List String)
    (interval : Number.Binary .double) :
    List (List Happening) → Work σ Unit
  | [] => sleep interval (Act.onFirst (Act.onFirst (Session.info
      "Keyboard interrupt received, stopping...")))
  | happenings :: rest => sleep interval do
    turn devices time args happenings
    loop devices time args interval rest

/-- Lets the observer end. -/
def finish : Work σ Unit := do
  observe .stop
  observe .join

/-- Watches the stage files of a command line, and gives the exit code. -/
def run (devices : Command.Devices σ) (time : String) (args : List String)
    (interval : Number.Binary .double) (turns : List (List Happening)) :
    Work σ Int := do
  if ← begin devices time args then
    Act.ensuring (loop devices time args interval turns) finish
    return 0
  else return Command.failureCode

end ShaderBindings.Watch
