import ShaderBindings.Command.Execution
import ShaderBindings.Window.Scripted
import Std.Time.Format

/-!
# The command line program

Reads the files that the arguments name, lets the command work on them, prints
what it logs, and writes what it has changed. No graphics library is linked in,
so contexts cannot be made.
-/

open ShaderBindings

namespace ShaderBindings.Main

/-- Devices of a machine without graphics. -/
def devices : Command.Devices Unit where
  gl := fun call d => (.error (.failed s!"{call.name} is not available"), d)
  windows := { starts := false : Window.Script }.system

/-- The paths that an argument may mean. -/
def candidates (arg : String) : List String :=
  let value := (Arguments.splitOption arg.toList).2.getD arg
  [Arguments.trimQuotes arg, Arguments.trimQuotes value].eraseDups

/-- Takes the file or the directory at a path into a file system. -/
def take (fs : File.System) (text : String) : IO File.System := do
  let path := File.Path.ofText text
  if File.hasNull text then return fs
  let place := (← IO.currentDir) / path.text
  if !(← place.pathExists) then return fs
  let directory := if ← place.isDir then path else path.parent
  match fs.makeDirectories directory with
  | .error _ => return fs
  | .ok above =>
    if ← place.isDir then return above
    let content ← IO.FS.readBinFile place
    return (above.writeBytes path content.toList).toOption.getD above

/-- The current directory and the files that the words name. -/
def snapshot (words : List String) : IO File.System := do
  let here := File.pieces (← IO.currentDir).toString
  let current := here.filter (· != "")
  let above := (List.range current.length).map fun n =>
    (current.take (n + 1), File.Entry.directory)
  (words.flatMap candidates).foldlM take { entries := above, current }

/-- Prints entries of the log. -/
def printLog (log : List Log.Entry) : IO Unit :=
  log.forM fun e => IO.eprintln s!"{e.level.name}: {e.message}"

/-- Writes the files that are new or changed. -/
def store (before after : File.System) : IO Unit :=
  after.entries.forM fun (location, entry) => do
    match entry with
    | .file content =>
      if before.entryAt location != some entry then
        IO.FS.createDirAll (File.Location.text location.dropLast)
        IO.FS.writeBinFile (File.Location.text location) content.toByteArray
    | _ => return ()

/-- The time of the clock. -/
def now : IO String := do
  let time := Std.Time.DateTime.ofTimestamp (← Std.Time.Timestamp.now) .UTC
  return time.format "uuuu-MM-dd HH:mm:ss 'UTC'"

/-- The state of a command and of its watcher. -/
abbrev State := (Session Unit × File.System) × Watch.State

/-- Performs work on the files that the words name. -/
def perform {α : Type} (words : List String) (watcher : Watch.State)
    (work : Watch.Work Unit α) : IO (Except Error α × State) := do
  let before ← snapshot words
  let (result, s) := work (({ devices := () }, before), watcher)
  printLog s.1.1.log
  store before s.1.2
  if let .error e := result then IO.eprintln e.message
  return (result, s)

/-- The events of files whose content is not what it was. -/
def changes (before after : File.System) : List Watch.Happening :=
  after.entries.filterMap fun (location, entry) =>
    if before.entryAt location == some entry then none
    else some (.event ⟨.modified, .text (File.Location.text location), .text ""⟩)

/-- Looks at the files again and again. -/
partial def watch (milliseconds : UInt32) (args : List String)
    (before : File.System) (watcher : Watch.State) : IO UInt32 := do
  IO.sleep milliseconds
  let after ← snapshot args
  let (result, s) ← perform args watcher
    (Watch.turn devices (← now) args (changes before after))
  match result with
  | .ok () => watch milliseconds args after s.2
  | .error _ => return 1

/-- An exit code as the operating system knows it. -/
def exitCode (code : Int) : UInt32 :=
  .ofNat (code % 256).toNat

/-- A number of seconds in milliseconds. -/
def milliseconds (seconds : Number.Binary .double) : UInt32 :=
  match seconds.datum with
  | .finite false m e =>
    .ofNat (Number.truncateScaled false (1000 * m) e).toNat
  | _ => 0

/-- Carries out the words of a command line. -/
def run (words : List String) : IO UInt32 := do
  match Command.Line.ofWords words with
  | .run .watch interval args =>
    if Arguments.isHelpRequest args then
      IO.println Arguments.usage
      return 0
    let (result, s) ← perform args {} (Watch.begin devices (← now) args)
    match result with
    | .ok true => watch (milliseconds interval) args s.1.2 s.2
    | .ok false => return exitCode Command.failureCode
    | .error _ => return 1
  | _ =>
    let (result, _) ← perform words {}
      (Command.execute devices (← now) [] words)
    match result with
    | .ok outcome =>
      IO.print outcome.output
      return exitCode outcome.code
    | .error _ => return 1

end ShaderBindings.Main

/-- The entry point of the program. -/
def main (words : List String) : IO UInt32 :=
  ShaderBindings.Main.run words
