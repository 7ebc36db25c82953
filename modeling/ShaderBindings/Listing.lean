/-!
# Listings

A buffer of source lines at the current indentation. Blank lines are kept to
what was asked for, and a suite of statements without a statement gets a `pass`.
`Item` describes what is written as a tree, a suite holding its own items.
-/

namespace ShaderBindings

/-- The lines written so far and the depth of the next one. -/
structure Listing where
  indent : Int := 0
  lines : List String := []
  deriving DecidableEq, Repr

namespace Listing

/-- Four spaces for each level; nothing below the first. -/
def indentation (level : Int) : String :=
  .ofList (List.replicate (4 * level.toNat) ' ')

/-- The number of blank lines at the end. -/
def trailingBlanks (lines : List String) : Nat :=
  (lines.reverse.takeWhile (· == "")).length

/-- Lets the listing end with at least `count` blank lines, unless nothing has
been written. -/
def separate (l : Listing) (count : Int) : Listing :=
  if l.lines.isEmpty then l
  else
    let missing := (count - trailingBlanks l.lines).toNat
    { l with lines := l.lines ++ List.replicate missing "" }

/-- Writes a line at the current depth. An empty line is a blank line. -/
def addLine (l : Listing) (text : String) : Listing :=
  if text == "" then l.separate 1
  else { l with lines := l.lines ++ [indentation l.indent ++ text] }

/-- Writes lines one after the other. -/
def addLines (l : Listing) (texts : List String) : Listing :=
  texts.foldl addLine l

/-- Goes `by_` levels deeper. -/
def deeper (l : Listing) (by_ : Int) : Listing :=
  { l with indent := l.indent + by_ }

/-- Writes the header of a suite and goes one level deeper. -/
def openSuite (l : Listing) (header : String) : Listing :=
  (l.addLine (header ++ ":")).deeper 1

/-- Leaves the suite whose first line has the index `start`. If it has no line
but blank ones, these are replaced by a `pass`. -/
def closeSuite (l : Listing) (start : Nat) : Listing :=
  let closed :=
    if (l.lines.drop start).all (· == "") then
      { l with lines := l.lines.take start }.addLine "pass"
    else l
  closed.deeper (-1)

/-- The listing without the blank lines at its end. -/
def trimEnd (l : Listing) : Listing :=
  { l with lines := (l.lines.reverse.dropWhile (· == "")).reverse }

/-- The lines as one text, every line ending in a line feed. -/
def text (l : Listing) : String :=
  "\n".intercalate l.lines ++ "\n"

/-- The listing as a text that ends in exactly one line feed. -/
def render (l : Listing) : String :=
  l.trimEnd.text

end Listing

/-- What is written into a listing. -/
inductive Item
  | line (text : String)
  | separate (count : Nat)
  /-- Items one level deeper, under a header. -/
  | suite (header : String) (body : List Item)
  /-- Items one level deeper. -/
  | deeper (body : List Item)

namespace Item

/-- A blank line. -/
def blank : Item := line ""

mutual

/-- Writes an item. -/
def write : Item → Listing → Listing
  | .line text, l => l.addLine text
  | .separate count, l => l.separate count
  | .suite header body, l =>
    let opened := l.openSuite header
    (writeAll body opened).closeSuite opened.lines.length
  | .deeper body, l => (writeAll body (l.deeper 1)).deeper (-1)

/-- Writes items one after the other. -/
def writeAll : List Item → Listing → Listing
  | [], l => l
  | item :: rest, l => writeAll rest (write item l)

end

end Item

end ShaderBindings
