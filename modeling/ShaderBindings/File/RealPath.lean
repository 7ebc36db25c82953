import ShaderBindings.File.Access

/-!
# Real paths

The path that is left once all links are resolved. Unlike a walk, this asks for
nothing: what is missing stays as it is written, and a link that leads back to
itself is left alone together with all that follows it.

A link is known by the way that leads to it. The same link met once by a path
from the current directory and once by a path from the root is therefore two
links, and a circle is noticed only when a way comes up again.
-/

namespace ShaderBindings.File

/-- The links met so far, with the path each has been resolved to; none while
that is under way. -/
abbrev Resolved := List (Path × Option Path)

/-- How far a resolution came. -/
inductive Resolution
  /-- All names have been resolved. -/
  | complete (path : Path)
  /-- A link leads back to itself. The path holds the names that follow just as
  they are written. -/
  | circular (path : Path)
  /-- A name has a null character. -/
  | refused
  deriving DecidableEq, Repr

namespace Path

/-- The path after double dots, by the names alone. Above a root there is
nothing; above the start of a relative path are more double dots. -/
def leave (p : Path) : Path :=
  match p.names.getLast? with
  | none => if p.root = .relative then ⟨.relative, [".."]⟩ else p
  | some ".." => { p with names := p.names ++ [".."] }
  | some _ => p.parent

/-- The path after one more name, by the names alone. -/
def enter (p : Path) (name : String) : Path :=
  if name == "" || name == "." then p
  else if name == ".." then p.leave
  else { p with names := p.names ++ [name] }

/-- The path followed by the pieces of another, just as they are written. An
empty piece at the front stands for a slash, which makes them a path of their
own. -/
def append (p : Path) (pieces : List String) : Path :=
  match pieces with
  | "" :: _ :: _ => ⟨rootOf ("/".intercalate pieces).toList, pieces⟩
  | _ => { p with names := p.names ++ pieces }

/-- The path from the root, with the names of the current directory before a
relative one, and with no double dots left. -/
def absolute (current : Location) (p : Path) : Path :=
  match p.root with
  | .relative => (current ++ p.names).foldl enter ⟨.slash, []⟩
  | root => p.names.foldl enter ⟨root, []⟩

end Path

namespace System

/-- What is at a path that has no link before its last name. -/
def entryOn (fs : System) (p : Path) : Option Entry :=
  if p.text.utf8ByteSize > maxPathBytes then none
  else fs.entryAt (p.absolute fs.current).names

/-- Resolves names one after the other. `resolve` does so for what a link
says. -/
def resolveNames (fs : System)
    (resolve : Path → List String → Resolved → Resolution × Resolved) :
    Path → List String → Resolved → Resolution × Resolved
  | here, [], seen => (.complete here, seen)
  | here, name :: rest, seen =>
    if name == "" || name == "." || name == ".." then
      resolveNames fs resolve (here.enter name) rest seen
    else if hasNull name then (.refused, seen)
    else
      let there := here.enter name
      match fs.entryOn there with
      | some (.link target) =>
        match seen.lookup there with
        | some (some path) => resolveNames fs resolve path rest seen
        | some none => (.circular (there.append rest), seen)
        | none =>
          let origin := if target.toList.head? = some '/' then ⟨.slash, []⟩
            else here
          match resolve origin (pieces target) (Table.insert there none seen) with
          | (.complete path, seen) =>
            resolveNames fs resolve path rest
              (Table.insert there (some path) seen)
          | (.circular path, seen) => (.circular (path.append rest), seen)
          | (.refused, seen) => (.refused, seen)
      | _ => resolveNames fs resolve there rest seen

/-- Resolves names through at most `depth` links inside each other. -/
def resolve (fs : System) :
    Nat → Path → List String → Resolved → Resolution × Resolved
  | 0 => fs.resolveNames fun here _ seen => (.complete here, seen)
  | depth + 1 => fs.resolveNames (fs.resolve depth)

/-- More links inside each other than there can be: each entry is met by a path
from the root, or by one that starts with as many double dots as there are
directories above the current one, or fewer. -/
def maxDepth (fs : System) : Nat :=
  fs.entries.length * (fs.current.length + 2)

/-- The path that is left of some pieces, at the front of which an empty one
stands for a slash. -/
def realPathOf (fs : System) (pieces : List String) : Except Error Path :=
  let start : Path :=
    match pieces with
    | "" :: _ :: _ => ⟨.slash, []⟩
    | _ => ⟨.relative, []⟩
  match fs.resolve fs.maxDepth start pieces [] with
  | (.complete path, _) | (.circular path, _) =>
    .ok (path.absolute fs.current)
  | (.refused, _) => .error .nullInPath

/-- The real path of a text. -/
def realPath (fs : System) (text : String) : Except Error Path :=
  fs.realPathOf (pieces text)

end System

/-! ## Paths in bytes -/

/-- The bytes between the slashes of a path. -/
def bytePieces (bytes : List UInt8) : List (List UInt8) :=
  bytes.splitOn 0x2f

/-- The pieces of a path in which some names are no texts. Nothing has such a
name, so it and all below it can only be left again, and what stands between is
as good as a single dot. None if the path ends before they are left. `depth`
counts the names that are to be left. -/
def leaveUnreadable : Nat → List (Option String) → Option (List String)
  | 0, [] => some []
  | _ + 1, [] => none
  | 0, some name :: rest => (leaveUnreadable 0 rest).map (name :: ·)
  | 0, none :: rest => (leaveUnreadable 1 rest).map ("." :: ·)
  | depth + 1, name :: rest =>
    if name == some "" || name == some "." then leaveUnreadable (depth + 1) rest
    else if name == some ".." then leaveUnreadable depth rest
    else leaveUnreadable (depth + 2) rest

/-- The real path of a path in bytes; none if it holds names that are no
texts. -/
def System.realPathOfBytes (fs : System) (bytes : List UInt8) :
    Except Error (Option Path) :=
  if bytes.contains 0 then .error .nullInPath
  else
    let names := (bytePieces bytes).map fun b => (Text.Utf8.decode b).toOption
    match leaveUnreadable 0 names with
    | some pieces => (fs.realPathOf pieces).map some
    | none => .ok none

end ShaderBindings.File
