import ShaderBindings.File.System
import ShaderBindings.Text.Newline

/-!
# Access to files

Reading and writing texts, making directories and links, and asking what there
is. A path with a null character is refused before the file system sees it.
-/

namespace ShaderBindings.File

/-- A path with a null character. -/
def hasNull (text : String) : Bool :=
  text.toList.contains '\x00'

namespace System

/-- A refusal as an error that names the path. -/
def refuse {α : Type} (p : Path) (cause : Cause) : Except Error α :=
  .error (.file { cause, path := p.text })

/-- A failure that only says that there is nothing at the path. -/
def meansAbsent : Cause → Bool
  | .missing | .notDirectory | .linkLoop => true
  | .alreadyExists | .isDirectory | .nameTooLong => false

/-- What the path leads to, if anything. A path that cannot be walked for other
reasons is an error. -/
def entryOf? (fs : System) (p : Path) : Except Error (Option Entry) :=
  if hasNull p.text then .ok none
  else
    match fs.locate .toRead p.text with
    | .ok found => .ok found.entry
    | .error cause => if meansAbsent cause then .ok none else refuse p cause

/-- There is something at the path. -/
def pathExists (fs : System) (p : Path) : Except Error Bool :=
  (fs.entryOf? p).map Option.isSome

/-- There is a directory at the path. -/
def isDirectory (fs : System) (p : Path) : Except Error Bool :=
  (fs.entryOf? p).map (· == some .directory)

/-- The bytes of a file. -/
def readBytes (fs : System) (p : Path) : Except Error (List UInt8) :=
  if hasNull p.text then .error .nullInPath
  else
    match fs.locate .toRead p.text with
    | .error cause => refuse p cause
    | .ok ⟨_, some (.file content)⟩ => .ok content
    | .ok ⟨_, some .directory⟩ => refuse p .isDirectory
    | .ok ⟨_, _⟩ => refuse p .missing

/-- The text of a file, all line ends being line feeds. -/
def readText (fs : System) (p : Path) : Except Error String := do
  let text ← (Text.Utf8.decode (← fs.readBytes p)).mapError Error.decoding
  return Text.normalizeLineEnds text

/-- Writes bytes to a file, which is made if it is missing. -/
def writeBytes (fs : System) (p : Path) (content : List UInt8) :
    Except Error System :=
  if hasNull p.text then .error .nullInPath
  else
    match fs.locate .toWrite p.text with
    | .error cause => refuse p cause
    | .ok ⟨_, some .directory⟩ => refuse p .isDirectory
    | .ok ⟨location, _⟩ => .ok (fs.put location (.file content))

/-- Writes a text to a file. -/
def writeText (fs : System) (p : Path) (text : String) :
    Except Error System :=
  fs.writeBytes p (Text.Utf8.encode text)

/-- Makes a link that says `target`. Whatever is there already is in the way. -/
def makeLink (fs : System) (p : Path) (target : String) :
    Except Error System :=
  let refuse (cause : Cause) : Except Error System :=
    .error (.file { cause, path := p.text, target })
  if hasNull p.text || hasNull target then .error .nullInPath
  else if target == "" then refuse .missing
  else if target.utf8ByteSize > maxPathBytes then refuse .nameTooLong
  else
    match fs.locate .toPlace p.text with
    | .error cause => refuse cause
    | .ok ⟨_, some _⟩ => refuse .alreadyExists
    | .ok ⟨location, none⟩ => .ok (fs.put location (.link target))

/-- Makes one directory. Whatever is there already is in the way. -/
def makeEntry (fs : System) (p : Path) : Except Cause System :=
  match fs.locate .toPlace p.text with
  | .error cause => .error cause
  | .ok ⟨_, some _⟩ => .error .alreadyExists
  | .ok ⟨location, none⟩ => .ok (fs.put location .directory)

/-- Makes one directory, unless it is there already. -/
def makeDirectory (fs : System) (p : Path) : Except Error System :=
  if hasNull p.text then .error .nullInPath
  else
    match fs.makeEntry p with
    | .ok fs' => .ok fs'
    | .error .missing => refuse p .missing
    | .error cause => do
      if ← fs.isDirectory p then return fs else refuse p cause

/-- Makes the directory at `root` and `names`, and before it those above it
that are missing. The names are given last first. -/
def makeNamed (fs : System) (root : Root) : List String → Except Error System
  | [] => fs.makeDirectory ⟨root, []⟩
  | name :: above => do
    let p : Path := ⟨root, (name :: above).reverse⟩
    if !hasNull p.text && fs.makeEntry p matches .error .missing then
      (← fs.makeNamed root above).makeDirectory p
    else fs.makeDirectory p

/-- Makes a directory and all those above it that are missing. -/
def makeDirectories (fs : System) (p : Path) : Except Error System :=
  fs.makeNamed p.root p.names.reverse

end System

end ShaderBindings.File
