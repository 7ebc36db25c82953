import ShaderBindings.Act
import ShaderBindings.GL.Call
import ShaderBindings.Log
import ShaderBindings.Window.Call

/-!
# Sessions

The state that acts on the outside world work on: the devices, and in order
everything that was asked of them and everything that was logged.
-/

namespace ShaderBindings

/-- Something that was asked of the outside world, or that a caller reports
about itself. -/
inductive Event
  | gl (event : GL.Event)
  | window (event : Window.Event)
  | note (text : String)

/-- The devices, with what happened so far. -/
structure Session (σ : Type) where
  devices : σ
  trace : List Event := []
  log : List Log.Entry := []

namespace Session

variable {σ : Type}

/-- Adds an entry to the log. -/
def write (level : Log.Level) (message : String) : Act (Session σ) Unit :=
  .modify fun s => { s with log := s.log ++ [⟨level, message⟩] }

/-- Logs a message for those who look for faults. -/
def debug (message : String) : Act (Session σ) Unit := write .debug message
/-- Logs what has been done. -/
def info (message : String) : Act (Session σ) Unit := write .info message
/-- Logs what has been passed over. -/
def warn (message : String) : Act (Session σ) Unit := write .warning message
/-- Logs what has failed. -/
def error (message : String) : Act (Session σ) Unit := write .error message

/-- Adds a note to the trace. -/
def note (text : String) : Act (Session σ) Unit :=
  .modify fun s => { s with trace := s.trace ++ [.note text] }

/-- The session with nothing recorded yet. -/
def cleared (s : Session σ) : Session σ :=
  { devices := s.devices }

end Session

/-- Lets a device perform a call, and records it. -/
def GL.Device.perform {σ : Type} (gl : GL.Device σ) (call : GL.Call) :
    Act (Session σ) call.Reply := fun s =>
  let (result, devices) := gl call s.devices
  (result.mapError .external,
    { s with devices, trace := s.trace ++ [.gl ⟨call, result⟩] })

/-- Lets a window system perform a call, and records it. -/
def Window.System.perform {σ : Type} (system : Window.System σ)
    (call : Window.Call) : Act (Session σ) call.Reply := fun s =>
  let (result, devices) := system call s.devices
  (result.mapError .external,
    { s with devices, trace := s.trace ++ [.window ⟨call, result⟩] })

end ShaderBindings
