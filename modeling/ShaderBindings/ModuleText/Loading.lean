import ShaderBindings.ModuleText
import ShaderBindings.ModuleText.Token
import ShaderBindings.Text.Newline
import ShaderBindings.Text.NormalForm

/-!
# Loading a module text

A text that has been generated is read back before its class can be used. All of
it is known to be well formed but the documentation of the class, in which the
names of variables stand as they are: they may end it early, or hold what looks
like an escape.
-/

namespace ShaderBindings.ModuleText

/-- The line on which the documentation of the class starts. -/
def firstDocLine (version : String) (plan : Plan) : Nat :=
  let above := heading version plan ++
    [.separate 2, decorator version plan.options, .line "class"]
  ((Item.writeAll above {}).text.toList.filter (· == '\n')).length + 1

/-- The line on which the documentation of the class is meant to end. -/
def lastDocLine (version : String) (plan : Plan) : Nat :=
  let l := Item.writeAll (classDoc plan) {}
  let lines :=
    ((Text.normalizeLineEnds l.render).toList.filter (· == '\n')).length
  firstDocLine version plan + lines - 1

/-- A literal of bytes. -/
def isBytes (letters : String) : Bool :=
  letters.toList.any fun c => c == 'b' || c == 'B'

/-- What a literal says; none if that is known only later. -/
def contentOf? (letters : String) (body : List Char) :
    Except Text.EscapeFault (Option String) :=
  if letters.toList.any fun c => c == 'f' || c == 'F' then .ok none
  else if letters.toList.any fun c => c == 'r' || c == 'R' then
    .ok (some (.ofList body))
  else (Text.unescape body).map some

/-- What literals side by side say. -/
def joined : List (String × List Char) → Except Problem (Option String)
  | [] => .ok (some "")
  | (letters, body) :: rest => do
    if isBytes letters then throw .mixedLiterals
    let first ← (contentOf? letters body).mapError Problem.escape
    let others ← joined rest
    return do return (← first) ++ (← others)

/-- The literals at the front, and what follows. -/
def splitLiterals : List Placed → List (String × List Char) × List Placed
  | ⟨.literal letters body, _, _⟩ :: rest =>
    let (literals, after) := splitLiterals rest
    ((letters, body) :: literals, after)
  | ts => ([], ts)

/-- What is wrong with tokens that are not expected, the first of them coming
after literals that start on a line. -/
def misplacement (line : Nat) : List Placed → Problem × Nat
  | ⟨.symbol ':', _, _⟩ :: ⟨.word _, _, _⟩ :: ⟨.lineEnd, _, _⟩ :: _ =>
    (.wronglyTyped, line)
  | t :: _ => (if t.token = .indent then .unexpectedIndent else .misplaced, t.line)
  | [] => (.misplaced, line)

/-- Where the reading of statements ends. -/
inductive Ending
  /-- The statements are over, and the first of them said this. -/
  | over (said : Option String)
  | problem (problem : Problem) (line : Nat)
  /-- There are no tokens left. -/
  | cut

/-- Reads lines of literals, up to a line and at most `count` of them. Anything
else is misplaced. -/
def readStatements (last : Nat) : Nat → List Placed → Ending
  | 0, _ => .over none
  | count + 1, ts =>
    match splitLiterals ts with
    | (_, []) => .cut
    | ([], t :: after) =>
      if t.line > last then .over none
      else
        let (problem, line) := misplacement t.line (t :: after)
        .problem problem line
    | (literals, t :: rest) =>
      match joined literals with
      | .error problem => .problem problem t.line
      | .ok said =>
        if t.token = .lineEnd then
          match readStatements last count rest with
          | .over _ => .over said
          | ending => ending
        else if rest.isEmpty then .cut
        else
          let (problem, line) :=
            misplacement ((ts.head?.map fun t => t.line).getD t.line) (t :: rest)
          .problem problem line

/-- The problem that is told of a text in which the statements have one. If what
is left of the text is worse, that is told in its place. -/
def worst (scanned : Scanned) (problem : Problem) (line : Nat) : Fault :=
  if problem = .unexpectedIndent then .unreadable problem line
  else
    let own : Fault :=
      match scanned.bracket with
      | some (bracket, at_) =>
        if line > at_ then .unreadable (.neverClosed bracket) at_
        else .unreadable problem line
      | none => .unreadable problem line
    match scanned.problem with
    | some (other, place) =>
      if other.isQuiet then own else .unreadable other place
    | none => .unreadable problem line

/-- What the documentation between two lines says, if a text can be read. -/
def readDocumentation (first last : Nat) (scanned : Scanned) :
    Except Fault (Option String) :=
  let above (t : Placed) := t.line < first || t.token = .indent
  let ts := scanned.tokens.dropWhile above
  match readStatements last ts.length ts, scanned.problem with
  | .problem problem line, _ => .error (worst scanned problem line)
  | .over _, some (problem, line) | .cut, some (problem, line) =>
    .error (.unreadable problem line)
  | .over said, none => .ok said
  | .cut, none => .ok none

/-- What the class of a module says about itself, if its text can be loaded. -/
def load (version : String) (plan : Plan) : Except Fault (Option String) := do
  let text := (ofPlan version plan).toList
  if text.contains '\x00' then throw .nullCharacter
  let first := firstDocLine version plan
  let said ← readDocumentation first (lastDocLine version plan)
    (scan (Text.lineFeeds text))
  let name := Text.normalForm plan.options.className
  if name == "__debug__" then
    throw (.unreadable (.constantName name) (first - 1))
  return said

end ShaderBindings.ModuleText
