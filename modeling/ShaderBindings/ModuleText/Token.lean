import ShaderBindings.ModuleText.Fault
import ShaderBindings.Text.Printable

/-!
# Tokens of a module text

A text is read character by character, as far as is needed to tell literals,
brackets, lines and everything else apart. The first character that fits
nowhere ends the reading.
-/

namespace ShaderBindings.ModuleText

/-- A token. A literal has letters before its quotes, and a body. -/
inductive Token
  | literal (letters : String) (body : List Char)
  | word (text : String)
  | symbol (c : Char)
  | lineEnd
  /-- The next line is indented more than the ones before. -/
  | indent
  /-- The next line is indented less than the ones before. -/
  | dedent
  deriving DecidableEq, Repr

/-- A token with the lines on which it starts and ends. -/
structure Placed where
  token : Token
  line : Nat
  endLine : Nat
  deriving DecidableEq, Repr

/-- A literal that is being read: the letters before its quotes, the quote, and
the line it starts on. -/
structure Opening where
  letters : String
  mark : Char
  line : Nat
  deriving DecidableEq, Repr

/-- What the next character may belong to. -/
inductive Mode
  /-- The blanks at the front of a line, `column` of them so far. -/
  | lineStart (column : Nat)
  | between
  | comment
  /-- A word or a number, its characters last first. -/
  | word (read : List Char)
  /-- The quotes of a literal, `count` of them so far. -/
  | quotes (opening : Opening) (count : Nat)
  /-- The body of a literal, its characters last first; how many quotes were
  the last ones; whether a backslash was. -/
  | body (opening : Opening) (long : Bool) (read : List Char) (marks : Nat)
      (escaped : Bool)
  | afterBackslash
  deriving DecidableEq, Repr

/-- How far a text has been read. -/
structure Reader where
  mode : Mode := .lineStart 0
  line : Nat := 1
  /-- The open brackets with their lines, the innermost first. -/
  brackets : List (Char × Nat) := []
  /-- The columns of the open suites, the innermost first. -/
  columns : List Nat := [0]
  /-- The tokens read so far, the last first. -/
  tokens : List Placed := []
  deriving DecidableEq, Repr

namespace Reader

/-- A problem in the line that is being read. -/
def refuse {α : Type} (r : Reader) (problem : Problem) :
    Except (Problem × Nat) α :=
  .error (problem, r.line)

/-- Adds a token that ends here. -/
def add (r : Reader) (token : Token) (line : Nat) : Reader :=
  { r with tokens := ⟨token, line, r.line⟩ :: r.tokens }

/-- Adds a token after which another may follow. -/
def addShort (r : Reader) (token : Token) : Reader :=
  { r.add token r.line with mode := .between }

/-- Ends a line. An empty line is no token, nor is a line end in brackets. -/
def endLine (r : Reader) : Reader :=
  let next := { r with line := r.line + 1 }
  if !r.brackets.isEmpty then { next with mode := .between }
  else
    let ended :=
      match r.tokens.head? with
      | none => next
      | some t =>
        if t.token = Token.lineEnd then next
        else { next with tokens := ⟨.lineEnd, r.line, r.line⟩ :: r.tokens }
    { ended with mode := .lineStart 0 }

/-- The suites that are open at a column; none if no suite is at it. -/
def columnsAt (column : Nat) : List Nat → Option (List Nat)
  | [] => none
  | c :: rest =>
    if column > c then none
    else if column = c then some (c :: rest)
    else columnsAt column rest

/-- Takes note of the column at which a line starts. -/
def indent (r : Reader) (column : Nat) : Except (Problem × Nat) Reader :=
  if column > r.columns.headD 0 then
    .ok { r.add .indent r.line with columns := column :: r.columns }
  else
    match columnsAt column r.columns with
    | some columns =>
      if columns.length = r.columns.length then .ok r
      else .ok { r.add .dedent r.line with columns }
    | none => r.refuse .unindented

/-- The opening bracket for a closing one. -/
def openingOf? : Char → Option Char
  | ')' => some '('
  | ']' => some '['
  | '}' => some '{'
  | _ => none

/-- Closes a bracket. -/
def close (r : Reader) (closing opening : Char) : Except (Problem × Nat) Reader :=
  match r.brackets with
  | [] => r.refuse (.unmatched closing)
  | (open_, line) :: outer =>
    if open_ == opening then
      .ok { r.addShort (.symbol closing) with brackets := outer }
    else
      r.refuse (.mismatched closing open_
        (if line = r.line then none else some line))

/-- A character that may be part of a word, for all that can be told at once. -/
def isWordPart (c : Char) : Bool :=
  Text.isWordChar c || c.toNat ≥ 0x80

/-- The first character that keeps a text from being an identifier. -/
def firstMisfit? : List Char → Option Char
  | [] => none
  | c :: rest =>
    if !Text.isIdentifierStart c then some c
    else rest.find? fun d => !Text.isIdentifierRest d

/-- A word or a number is well formed. Of numbers, only those that stand for
integers of base ten are looked into. -/
def checkWord (r : Reader) (word : List Char) : Except (Problem × Nat) Unit :=
  match word with
  | '0' :: rest =>
    if rest.any Char.isDigit && rest.all fun c => c.isDigit || c == '_' then
      if rest.all fun c => c == '0' || c == '_' then .ok ()
      else r.refuse .leadingZeros
    else if rest.isEmpty || "xXoObB".toList.contains (rest.headD ' ') then
      .ok ()
    else r.refuse .invalidNumber
  | c :: rest =>
    if c.isDigit then
      if rest.all fun d => d.isDigit || d == '_' then .ok ()
      else r.refuse .invalidNumber
    else
      match firstMisfit? word with
      | none => .ok ()
      | some d =>
        if Text.isPrintable d then r.refuse (.invalidCharacter d)
        else r.refuse (.unprintableCharacter d)
  | [] => .ok ()

/-- The letters that may stand before the quotes of a literal. -/
def isLiteralPrefix (word : List Char) : Bool :=
  ["r", "u", "b", "f", "br", "rb", "fr", "rf"].contains
    (.ofList (word.map Char.toLower))

/-- Reads a character between tokens. -/
def readBetween (r : Reader) (c : Char) : Except (Problem × Nat) Reader :=
  if c == '\n' then .ok r.endLine
  else if c == ' ' || c == '\t' || c == '\x0c' then
    .ok { r with mode := .between }
  else if c == '#' then .ok { r with mode := .comment }
  else if c == '\\' then .ok { r with mode := .afterBackslash }
  else if c == '"' || c == '\'' then
    .ok { r with mode := .quotes ⟨"", c, r.line⟩ 1 }
  else if c == '(' || c == '[' || c == '{' then
    .ok { r.addShort (.symbol c) with brackets := (c, r.line) :: r.brackets }
  else if isWordPart c then .ok { r with mode := .word [c] }
  else
    match openingOf? c with
    | some opening => r.close c opening
    | none =>
      if Text.isPrintable c then .ok (r.addShort (.symbol c))
      else r.refuse (.unprintableCharacter c)

/-- Reads a character of a literal's body. -/
def readBody (r : Reader) (opening : Opening) (long : Bool)
    (read : List Char) (marks : Nat) (escaped : Bool) (c : Char) :
    Except (Problem × Nat) Reader :=
  let next := if c == '\n' then { r with line := r.line + 1 } else r
  let stay (marks : Nat) (escaped : Bool) : Except (Problem × Nat) Reader :=
    .ok { next with mode := .body opening long (c :: read) marks escaped }
  let finish (body : List Char) : Except (Problem × Nat) Reader :=
    .ok { r.add (.literal opening.letters body.reverse) opening.line with
      mode := .between }
  if escaped then stay 0 false
  else if c == '\\' then stay 0 true
  else if c == opening.mark then
    if !long then finish read
    else if marks = 2 then finish (read.drop 2)
    else stay (marks + 1) false
  else if c == '\n' && !long then
    .error (.openLiteral r.line, opening.line)
  else stay 0 false

/-- Reads a character. -/
def read (r : Reader) (c : Char) : Except (Problem × Nat) Reader :=
  match r.mode with
  | .lineStart column =>
    if c == ' ' then .ok { r with mode := .lineStart (column + 1) }
    else if c == '\t' then
      .ok { r with mode := .lineStart (8 * (column / 8 + 1)) }
    else if c == '\x0c' then .ok { r with mode := .lineStart 0 }
    else if c == '\n' || c == '#' then r.readBetween c
    else do (← r.indent column).readBetween c
  | .between => r.readBetween c
  | .comment =>
    if c == '\n' then .ok r.endLine else .ok r
  | .word read =>
    if isWordPart c then .ok { r with mode := .word (c :: read) }
    else
      let word := read.reverse
      if (c == '"' || c == '\'') && isLiteralPrefix word then
        .ok { r with mode := .quotes ⟨.ofList word, c, r.line⟩ 1 }
      else do
        r.checkWord word
        (r.addShort (.word (.ofList word))).readBetween c
  | .quotes opening count =>
    if c == opening.mark then
      if count = 1 then .ok { r with mode := .quotes opening 2 }
      else .ok { r with mode := .body opening true [] 0 false }
    else if count = 1 then r.readBody opening false [] 0 false c
    else
      { r.add (.literal opening.letters []) opening.line with
        mode := .between }.readBetween c
  | .body opening long read marks escaped =>
    r.readBody opening long read marks escaped c
  | .afterBackslash =>
    if c == '\n' then .ok { r with line := r.line + 1, mode := .between }
    else r.refuse .afterBackslash

/-- What keeps a text that has been read to its end from being over. Its last
line has been ended. -/
def left? (r : Reader) : Option (Problem × Nat) :=
  match r.mode, r.brackets with
  | .body opening _ _ _ _, _ =>
    some (.openLongLiteral (r.line - 1), opening.line)
  | _, (bracket, line) :: _ => some (.neverClosed bracket, line)
  | _, [] => none

/-- Reads characters one after the other, up to the first that fits nowhere.
Gives what has been read, and the problem with its line. -/
def readAll : Reader → List Char → Reader × Option (Problem × Nat)
  | r, [] => (r, r.left?)
  | r, c :: rest =>
    match r.read c with
    | .ok next => readAll next rest
    | .error e => (r, some e)

end Reader

/-- A text as it has been read. -/
structure Scanned where
  tokens : List Placed
  /-- The problem after the last token, and its line. -/
  problem : Option (Problem × Nat)
  /-- The innermost bracket that is open there, and its line. -/
  bracket : Option (Char × Nat)
  deriving DecidableEq, Repr

/-- Reads a text. -/
def scan (text : List Char) : Scanned :=
  let (r, problem) := Reader.readAll {} text
  ⟨r.tokens.reverse, problem, r.brackets.head?⟩

end ShaderBindings.ModuleText
