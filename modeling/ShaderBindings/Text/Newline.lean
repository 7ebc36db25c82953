/-!
# Line ends

A carriage return, alone or before a line feed, is another way to write a line
feed.
-/

namespace ShaderBindings.Text

/-- Every line end written as a line feed. -/
def lineFeeds : List Char → List Char
  | '\r' :: '\n' :: rest => '\n' :: lineFeeds rest
  | '\r' :: rest => '\n' :: lineFeeds rest
  | c :: rest => c :: lineFeeds rest
  | [] => []

/-- The text with every line end written as a line feed. -/
def normalizeLineEnds (s : String) : String :=
  .ofList (lineFeeds s.toList)

end ShaderBindings.Text
