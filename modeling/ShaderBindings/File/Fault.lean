import ShaderBindings.Text.Literal

/-!
# File errors

Why a file system refuses an operation. All of it may be read and written, so
nothing is refused for want of a permission; neither does a device fail or run
out of space.
-/

namespace ShaderBindings.File

/-- The cause of a refusal. -/
inductive Cause
  | missing
  | alreadyExists
  | notDirectory
  | isDirectory
  | nameTooLong
  | linkLoop
  deriving DecidableEq, Repr

namespace Cause

/-- The number of a cause. -/
def number : Cause → Nat
  | missing => 2
  | alreadyExists => 17
  | notDirectory => 20
  | isDirectory => 21
  | nameTooLong => 36
  | linkLoop => 40

/-- The words for a cause. -/
def words : Cause → String
  | missing => "No such file or directory"
  | alreadyExists => "File exists"
  | notDirectory => "Not a directory"
  | isDirectory => "Is a directory"
  | nameTooLong => "File name too long"
  | linkLoop => "Too many levels of symbolic links"

end Cause

/-- A refusal and the path that was asked for; of a link that is to be made, also
what it is to say. -/
structure Fault where
  cause : Cause
  path : String
  target : Option String := none
  deriving DecidableEq, Repr

/-- The paths that a refusal is about. -/
def Fault.paths (f : Fault) : String :=
  match f.target with
  | some target => s!"{Text.literal target} -> {Text.literal f.path}"
  | none => Text.literal f.path

/-- The words for a refusal. -/
def Fault.message (f : Fault) : String :=
  s!"[Errno {f.cause.number}] {f.cause.words}: {f.paths}"

end ShaderBindings.File
