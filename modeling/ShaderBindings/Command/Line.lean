import ShaderBindings.Text.Numeral

/-!
# Commands and options

The first word of a command line is the command. The options of the command
line itself may stand anywhere before a double dash; everything else is passed
on in order to the grammar of flags.
-/

namespace ShaderBindings.Command

/-- A command. -/
inductive Name
  | compile
  | watch
  deriving DecidableEq, Repr

/-- The seconds that watching sleeps between two looks, unless said otherwise:
one fifth. -/
def defaultInterval : Number.Binary .double :=
  .ofRatio false 1 5

/-- What is asked for: nothing that can be understood, help on the options, or a
command with its arguments. -/
inductive Line
  | malformed
  | help
  | run (name : Name) (interval : Number.Binary .double) (args : List String)
  deriving DecidableEq, Repr

/-- The options before any of them is understood: whether help is asked for, the
text of the interval, and the arguments. -/
structure Options where
  help : Bool := false
  interval : Option String := none
  args : List String := []
  deriving DecidableEq, Repr

/-- The text after a text at the front. -/
def after? (front text : String) : Option String :=
  if front.toList.isPrefixOf text.toList then
    some (.ofList (text.toList.drop front.length))
  else none

/-- Takes the options out of the words that follow a command; nothing if one of
them is malformed. The last interval counts. -/
def readOptions (name : Name) : List String → Option Options
  | [] => some {}
  | "--" :: rest => some { args := rest }
  | "--verbose" :: rest => readOptions name rest
  | "--help" :: rest =>
    (readOptions name rest).map fun o => { o with help := true }
  | "--interval" :: rest =>
    match name, rest with
    | .compile, rest => (readOptions name rest).map fun o =>
        { o with args := "--interval" :: o.args }
    | .watch, [] => none
    | .watch, value :: rest => (readOptions name rest).map fun o =>
        { o with interval := o.interval.or (some value) }
  | word :: rest =>
    if (after? "--verbose=" word).isSome || (after? "--help=" word).isSome then
      none
    else
      match name, after? "--interval=" word with
      | .watch, some value => (readOptions name rest).map fun o =>
          { o with interval := o.interval.or (some value) }
      | _, _ => (readOptions name rest).map fun o =>
          { o with args := word :: o.args }

/-- A command with the words that follow it. -/
def readCommand (name : Name) (words : List String) : Line :=
  match readOptions name words with
  | none => .malformed
  | some o =>
    if o.help then .help
    else
      match o.interval with
      | none => .run name defaultInterval o.args
      | some text =>
        match Text.number? text with
        | some interval => .run name interval o.args
        | none => .malformed

/-- The words of a command line from the command on. -/
def readWords : List String → Line
  | "--help" :: _ => .help
  | "compile" :: words => readCommand .compile words
  | "watch" :: words => readCommand .watch words
  | _ => .malformed

/-- A command line. A double dash before the command has no meaning. -/
def Line.ofWords : List String → Line
  | "--" :: "--help" :: _ => .malformed
  | "--" :: words => readWords words
  | words => readWords words

end ShaderBindings.Command
