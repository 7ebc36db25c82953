/-!
# Log entries
-/

namespace ShaderBindings.Log

/-- How much an entry matters. -/
inductive Level
  | debug
  | info
  | warning
  | error
  deriving DecidableEq, Repr

/-- The name under which a level is shown. -/
def Level.name : Level → String
  | debug => "DEBUG"
  | info => "INFO"
  | warning => "WARNING"
  | error => "ERROR"

/-- An entry of the log. -/
structure Entry where
  level : Level
  message : String
  deriving DecidableEq, Repr

end ShaderBindings.Log
