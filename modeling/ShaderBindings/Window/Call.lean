import ShaderBindings.Error
import ShaderBindings.Value

/-!
# Calls of the window system

The calls that make a hidden window with an OpenGL context, and that take both
down again. A `System` is whatever performs them.
-/

namespace ShaderBindings.Window

/-- A wish about the next window. -/
inductive Hint
  | hidden
  | contextMajor (n : Int)
  | contextMinor (n : Int)
  | forwardCompatible
  | coreProfile
  deriving DecidableEq, Repr

/-- What a new context says about itself. -/
structure ContextInfo where
  /-- A hundred times the major version and ten times the minor one. -/
  versionCode : Int
  renderer : Option String
  deriving DecidableEq, Repr

/-- A call. Windows are named by their handles. -/
inductive Call
  | start
  | hint (hint : Hint)
  | createWindow
  | makeCurrent (window : Int)
  | createContext
  | destroyWindow (window : Int)
  | stop
  deriving DecidableEq, Repr

namespace Call

/-- What a call gives back: whether the system has started, and the handle of
the window, which is zero if there is none. -/
@[reducible] def Reply : Call → Type
  | start => Bool
  | createWindow => Int
  | createContext => ContextInfo
  | _ => Unit

/-- The name of the function that is called. -/
def name : Call → String
  | start => "init"
  | hint _ => "window_hint"
  | createWindow => "create_window"
  | makeCurrent _ => "make_context_current"
  | createContext => "moderngl.create_context"
  | destroyWindow _ => "destroy_window"
  | stop => "terminate"

end Call

/-- The arguments of a wish. -/
def Hint.arguments : Hint → List Value
  | hidden => [.text "VISIBLE", .bool false]
  | contextMajor n => [.text "CONTEXT_VERSION_MAJOR", .int n]
  | contextMinor n => [.text "CONTEXT_VERSION_MINOR", .int n]
  | forwardCompatible => [.text "OPENGL_FORWARD_COMPAT", .bool true]
  | coreProfile => [.text "OPENGL_PROFILE", .text "OPENGL_CORE_PROFILE"]

/-- The arguments of the function. A window is made one pixel wide and high,
without a title. -/
def Call.arguments : Call → List Value
  | .hint h => h.arguments
  | .createWindow => [.int 1, .int 1, .text "", .none, .none]
  | .makeCurrent w | .destroyWindow w => [.int w]
  | .start | .createContext | .stop => []

/-- A performer of calls, with a state of its own. -/
def System (σ : Type) : Type :=
  (call : Call) → σ → Except ExternalFault call.Reply × σ

/-- A call and what came of it. -/
structure Event where
  call : Call
  result : Except ExternalFault call.Reply

end ShaderBindings.Window
