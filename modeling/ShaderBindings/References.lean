import ShaderBindings.Session

/-!
# Counted references

A resource that several users share is released when the last of them gives its
reference back.
-/

namespace ShaderBindings

/-- How many references are out. -/
structure References where
  count : Nat := 0
  deriving DecidableEq, Repr

/-- A place inside a larger state. -/
structure Place (S T : Type) where
  get : S → T
  set : T → S → S

namespace References

variable {σ K : Type}

/-- Takes a reference. Gives how many are out. -/
def acquire (place : Place K References) : Act (Session σ × K) Nat := do
  let (_, k) ← Act.get
  let count := (place.get k).count + 1
  Act.onSecond (Act.modify (place.set ⟨count⟩))
  return count

/-- Gives a reference back, and after the last one releases the resource. If
none is out, that is worth a warning and nothing else. -/
def release (place : Place K References)
    (releaseResource : Act (Session σ × K) Unit) :
    Act (Session σ × K) Nat := do
  let (_, k) ← Act.get
  match (place.get k).count with
  | 0 =>
    Act.onFirst
      (Session.warn "Counter released more often than it was acquired")
    return 0
  | count + 1 =>
    Act.onSecond (Act.modify (place.set ⟨count⟩))
    if count = 0 then releaseResource
    let (_, k) ← Act.get
    return (place.get k).count

/-- The count with its name. -/
def description (r : References) : String :=
  s!"Counter(count={r.count})"

end References

end ShaderBindings
