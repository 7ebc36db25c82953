import ShaderBindings.File.RealPath
import ShaderBindings.Session
import ShaderBindings.Text.Raw

/-!
# Changes of stage files

A handler is told of events in the file system and notes whether one of them
changes a stage file.
-/

namespace ShaderBindings.Watch

open File

/-- What happened to a file or a directory. -/
inductive EventKind
  | modified
  | created
  | moved
  | deleted
  | closed
  | opened
  deriving DecidableEq, Repr

/-- An event, with the path it happened to and, if something was moved, the
path it was moved to. -/
structure FileEvent where
  kind : EventKind
  source : RawText
  target : RawText := .text ""
  deriving DecidableEq, Repr

/-- The path that may have new contents. An editor may save a file by moving a
temporary one into its place. -/
def FileEvent.changed? (e : FileEvent) : Option RawText :=
  match e.kind with
  | .modified | .created => some e.source
  | .moved => some e.target
  | .deleted | .closed | .opened => none

/-- The stage files, by their real paths, and whether one of them has changed
since the module was last generated. -/
structure Handler where
  stageFiles : List Path
  needsRebuild : Bool := false
  deriving DecidableEq, Repr

namespace Handler

/-- The real path of each path. -/
def realPaths (fs : System) : List Path → Except Error (List Path)
  | [] => .ok []
  | p :: rest => do
    let path ← fs.realPath p.text
    return path :: (← realPaths fs rest)

/-- The handler for some stage files. -/
def ofPaths (fs : System) (paths : List Path) : Except Error Handler := do
  return { stageFiles := ← realPaths fs paths }

variable {σ : Type}

/-- The real path of a reported path, if it is a text. -/
def reported (fs : System) : RawText → Except Error (Option Path)
  | .text s => (fs.realPath s).map some
  | .bytes bs => fs.realPathOfBytes bs

/-- Notes that there is something new at a path. -/
def check (fs : System) (path : RawText) : Act (Session σ × Handler) Unit := do
  let real? ← Act.ofExcept (reported fs path)
  let (_, h) ← Act.get
  if real?.any h.stageFiles.contains then
    Act.onFirst (Session.info s!"Detected changes in {path.decoded}")
    Act.onSecond (Act.set { h with needsRebuild := true })

/-- Takes note of an event. -/
def handle (fs : System) (e : FileEvent) : Act (Session σ × Handler) Unit :=
  match e.changed? with
  | some path => check fs path
  | none => return ()

end Handler

end ShaderBindings.Watch
