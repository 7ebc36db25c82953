import ShaderBindings.Proofs.Generation.Steps

/-!
# Generation — Inspection

Which variables a module is about. Nothing but the inspection of a program asks
for active variables, however a device answers. So a generation that gives a
text has asked for them once, and the text is the module for the answers.
-/

namespace ShaderBindings

variable {σ α β K : Type} {gl : GL.Device σ} {s s' : Session σ}

namespace Compilation

end Compilation

/-! ## Contexts -/

/-- The act makes no calls of OpenGL. -/
def Act.Uncalling (x : Act (Session σ) α) : Prop :=
  ∀ s, (x s).2.calls = s.calls

namespace Act.Uncalling

variable {x : Act (Session σ) α} {f : α → Act (Session σ) β}

theorem pure (a : α) : Uncalling (Pure.pure a : Act (Session σ) α) :=
  fun _ => rfl

theorem fail (e : Error) : Uncalling (Act.fail e : Act (Session σ) α) :=
  fun _ => rfl

theorem bind (hx : Uncalling x) (hf : ∀ a, Uncalling (f a)) :
    Uncalling (x >>= f) := by
  intro s
  have hfirst := hx s
  simp only [Bind.bind, Act.bind]
  cases hrun : x s with
  | mk r s' =>
    rw [hrun] at hfirst
    cases r with
    | ok a => exact (hf a s').trans hfirst
    | error e => exact hfirst

theorem onError {cleanup : Act (Session σ) Unit} (hx : Uncalling x)
    (hc : Uncalling cleanup) : Uncalling (Act.onError x cleanup) := by
  intro s
  have hfirst := hx s
  simp only [Act.onError]
  cases hrun : x s with
  | mk r s' =>
    rw [hrun] at hfirst
    cases r with
    | ok a => exact hfirst
    | error e =>
      have hsecond := (hc s').trans hfirst
      simp only
      cases hclean : cleanup s' with
      | mk r' s'' =>
        rw [hclean] at hsecond
        cases r' with
        | ok _ | error _ => exact hsecond

theorem perform (system : Window.System σ) (call : Window.Call) :
    Uncalling (system.perform call) := by
  intro s
  simp [Window.System.perform, Session.calls, List.filterMap_append, Event.gl?]

theorem write (level : Log.Level) (message : String) :
    Uncalling (Session.write level message : Act (Session σ) Unit) :=
  fun _ => rfl

end Act.Uncalling

namespace Context

variable (windows : Window.System σ) (v : Version)

end Context

/-! ## Generations -/

namespace Generation

end Generation

end ShaderBindings
