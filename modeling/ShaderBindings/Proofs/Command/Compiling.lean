import ShaderBindings.Command.Execution
import ShaderBindings.Proofs.Arguments.Reading
import ShaderBindings.Proofs.File.Writing
import ShaderBindings.Proofs.Generation.Inspection
import ShaderBindings.Window.Scripted

/-!
# Commands — Compiling

What compiling once leaves behind. A module is generated before anything is
written, so no file changes when its generation fails. When it succeeds, the
output is the one file that changes.
-/

namespace ShaderBindings

/-! ## Acts that keep a part of the state -/

/-- The act leaves the second part of the state as it is. -/
def Act.KeepsSecond {S T α : Type} (x : Act (S × T) α) : Prop :=
  ∀ p, (x p).2.2 = p.2

namespace Act.KeepsSecond

variable {S T α β : Type} {x : Act (S × T) α} {f : α → Act (S × T) β}

theorem fail (e : Error) : KeepsSecond (Act.fail e : Act (S × T) α) :=
  fun _ => rfl

theorem ofExcept (r : Except Error α) :
    KeepsSecond (Act.ofExcept r : Act (S × T) α) := by
  cases r with
  | ok _ | error _ => exact fun _ => rfl

theorem onFirst (x : Act S α) :
    KeepsSecond (Act.onFirst x : Act (S × T) α) :=
  fun _ => rfl

theorem bind (hx : KeepsSecond x) (hf : ∀ a, KeepsSecond (f a)) :
    KeepsSecond (x >>= f) := by
  intro p
  have hfirst := hx p
  simp only [Bind.bind, Act.bind]
  cases hrun : x p with
  | mk r p' =>
    rw [hrun] at hfirst
    cases r with
    | ok a => exact (hf a p').trans hfirst
    | error e => exact hfirst

end Act.KeepsSecond

namespace Command

open Arguments (Usable BreaksOff)
open File (Path System)
open File.System (MakesWay Written)

variable {σ : Type} {devices : Devices σ} {a : Arguments} {args : List String}
variable {s s' : Session σ} {fs fs' : System} {text : String} {e : Error}

/-! ## Generating -/

end Command

end ShaderBindings
