import ShaderBindings.Text.Blank
import ShaderBindings.Text.Digit

/-!
# Diagnostics

A compiler of shaders names the source it complains about by an index, which is
zero for the only source there is: `0(12) : error`, `0:12(5): error`. Here the
index gives way to the path of the file.
-/

namespace ShaderBindings.Diagnostic

open Text

/-- A line number follows: an opening bracket or a colon, and a digit. -/
def lineNumberFollows : List Char → Bool
  | mark :: c :: _ => (mark == '(' || mark == ':') && isDigit c
  | _ => false

/-- Replaces every source index by the path. `fresh` says that the text starts
here or follows a blank. The path itself is not looked into. -/
def replaceIndex (path : List Char) (fresh : Bool) : List Char → List Char
  | [] => []
  | c :: rest =>
    let shown :=
      if fresh && c == '0' && lineNumberFollows rest then path else [c]
    shown ++ replaceIndex path (isBlank c) rest

/-- The log with the path in place of every source index. -/
def inFile (log path : String) : String :=
  .ofList (replaceIndex path.toList true log.toList)

end ShaderBindings.Diagnostic
