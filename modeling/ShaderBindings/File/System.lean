import ShaderBindings.File.Path
import ShaderBindings.Table

/-!
# File systems

A file system is a table from locations to files, directories and symbolic
links. Following a path from a location is a walk through this table, in which
a link is replaced by what it says. Entries have no owner and no permissions.
-/

namespace ShaderBindings.File

/-- A place in the tree of directories: the names that lead there from the
root. The root itself is the empty list. -/
abbrev Location := List String

/-- A location as the text of an absolute path. -/
def Location.text (location : Location) : String :=
  "/" ++ "/".intercalate location

/-- What is at a location. -/
inductive Entry
  | file (content : List UInt8)
  | directory
  | link (target : String)
  deriving DecidableEq, Repr

/-- A file system, with the location that relative paths start from. -/
structure System where
  entries : List (Location × Entry) := []
  current : Location := []
  deriving DecidableEq, Repr

/-- The longest name, in bytes. -/
def maxNameBytes : Nat := 255

/-- The longest text of a path, in bytes. -/
def maxPathBytes : Nat := 4095

/-- How many links one walk follows. -/
def maxLinks : Nat := 40

/-- What a walk is for. A link at its end is followed, unless something is to be
put in that very place. -/
inductive Purpose
  | toRead
  | toWrite
  | toPlace
  deriving DecidableEq, Repr

/-- Where a walk ends, and what is there, if anything. -/
structure Found where
  location : Location
  entry : Option Entry
  deriving DecidableEq, Repr

namespace System

/-- What is at a location. -/
def entryAt (fs : System) (location : Location) : Option Entry :=
  if location.isEmpty then some .directory else fs.entries.lookup location

/-- Puts an entry at a location, in place of what was there. -/
def put (fs : System) (location : Location) (entry : Entry) : System :=
  { fs with entries := Table.insert location entry fs.entries }

/-- Takes away what is at a location. -/
def erase (fs : System) (location : Location) : System :=
  { fs with entries := fs.entries.filter fun e => e.1 != location }

/-- Where the walk along a path text starts. -/
def start (fs : System) (text : String) : Location :=
  if text.toList.head? = some '/' then [] else fs.current

/-- Walks along names. `follow` goes on from a directory when a link has been
replaced by its names. The last name may be that of nothing. A file that is to
be written cannot have a slash after its name. -/
def walkNames (fs : System) (purpose : Purpose)
    (follow : Location → List String → Except Cause Found) :
    Location → List String → Except Cause Found
  | here, [] => .ok ⟨here, fs.entryAt here⟩
  | here, name :: rest =>
    if fs.entryAt here != some .directory then .error .notDirectory
    else if name == "" || name == "." then walkNames fs purpose follow here rest
    else if name == ".." then walkNames fs purpose follow here.dropLast rest
    else if purpose = .toWrite && !rest.isEmpty && rest.all (· == "") then
      .error .isDirectory
    else if name.utf8ByteSize > maxNameBytes then .error .nameTooLong
    else
      let there := here ++ [name]
      match fs.entryAt there with
      | none =>
        if rest.isEmpty then .ok ⟨there, none⟩ else .error .missing
      | some (.link target) =>
        if rest.isEmpty && purpose = .toPlace then .ok ⟨there, some (.link target)⟩
        else
          let origin := if target.toList.head? = some '/' then [] else here
          follow origin (pieces target ++ rest)
      | some _ => walkNames fs purpose follow there rest

/-- Walks along names, following at most `links` links. -/
def walk (fs : System) (purpose : Purpose) :
    Nat → Location → List String → Except Cause Found
  | 0 => walkNames fs purpose fun _ _ => .error .linkLoop
  | links + 1 => walkNames fs purpose (walk fs purpose links)

/-- Follows the text of a path. -/
def locate (fs : System) (purpose : Purpose) (text : String) :
    Except Cause Found :=
  if text == "" then .error .missing
  else if text.utf8ByteSize > maxPathBytes then .error .nameTooLong
  else fs.walk purpose maxLinks (fs.start text) (pieces text)

end System

end ShaderBindings.File
