import ShaderBindings.Error

/-!
# Paths

A path is a root, if it is absolute, and the names that lead on from there.
Empty names and single dots say nothing and are left out; double dots stay,
because a link may stand before them.
-/

namespace ShaderBindings.File

/-- Where a path starts. Two slashes at the front are a root of their own;
three or more are one. -/
inductive Root
  | relative
  | slash
  | doubleSlash
  deriving DecidableEq, Repr

/-- How a root is written. -/
def Root.text : Root → String
  | relative => ""
  | slash => "/"
  | doubleSlash => "//"

/-- A path. -/
structure Path where
  root : Root
  names : List String
  deriving DecidableEq, Repr

/-- The pieces of a text between its slashes. -/
def pieces (text : String) : List String :=
  (text.toList.splitOn '/').map String.ofList

/-- The root at the front of a text. -/
def rootOf (text : List Char) : Root :=
  match text with
  | '/' :: '/' :: '/' :: _ => .slash
  | '/' :: '/' :: _ => .doubleSlash
  | '/' :: _ => .slash
  | _ => .relative

namespace Path

/-- The path that a text writes. -/
def ofText (text : String) : Path :=
  ⟨rootOf text.toList, (pieces text).filter fun p => p != "" && p != "."⟩

/-- The path as a text; the empty path is a dot. -/
def text (p : Path) : String :=
  if p.root = .relative && p.names.isEmpty then "."
  else p.root.text ++ "/".intercalate p.names

/-- The last name; empty if there is none. -/
def name (p : Path) : String :=
  p.names.getLast?.getD ""

/-- The path without its last name. -/
def parent (p : Path) : Path :=
  { p with names := p.names.dropLast }

/-- A name without its suffix, which starts at the last dot unless that is the
first or the last character. -/
def stemOf (name : String) : String :=
  let (suffix, before) := name.toList.reverse.span (· != '.')
  match before with
  | '.' :: stem =>
    if suffix.isEmpty || stem.isEmpty then name else .ofList stem.reverse
  | _ => name

/-- The path with another suffix. A path without a name has none to change. -/
def withSuffix (p : Path) (suffix : String) : Except Error Path :=
  match p.names.getLast? with
  | none => .error (.emptyName p.text)
  | some name =>
    .ok { p with names := p.names.dropLast ++ [stemOf name ++ suffix] }

end Path

end ShaderBindings.File
