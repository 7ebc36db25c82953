import ShaderBindings.Window.Call

/-!
# A scripted window system

A window system without a display behind it.
-/

namespace ShaderBindings.Window

/-- What a scripted window system answers. -/
structure Script where
  starts : Bool := true
  /-- The handle of the window; zero if none is made. -/
  window : Int := 7
  context : ContextInfo := ⟨460, none⟩
  /-- The functions that fail. -/
  failures : List String := []

/-- The scripted system. It has no state. -/
def Script.system {σ : Type} (script : Script) : System σ := fun call d =>
  if script.failures.contains call.name then
    (.error (.failed s!"{call.name} failed"), d)
  else
    match call with
    | .start => (.ok script.starts, d)
    | .createWindow => (.ok script.window, d)
    | .createContext => (.ok script.context, d)
    | .hint _ | .makeCurrent _ | .destroyWindow _ | .stop => (.ok (), d)

end ShaderBindings.Window
