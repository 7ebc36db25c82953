import ShaderBindings.Error

/-!
# Acts

An act changes a state and ends with a value or with an error. What it has
changed stays changed when it ends with an error.
-/

namespace ShaderBindings

/-- An act on states of type `S`. -/
def Act (S α : Type) : Type :=
  S → Except Error α × S

namespace Act

variable {S T α β : Type}

/-- The act that does nothing but give a value. -/
protected def pure (a : α) : Act S α := fun s => (.ok a, s)

/-- One act after another. An error of the first is the error of both. -/
protected def bind (x : Act S α) (f : α → Act S β) : Act S β := fun s =>
  match x s with
  | (.ok a, s') => f a s'
  | (.error e, s') => (.error e, s')

instance : Monad (Act S) where
  pure := Act.pure
  bind := Act.bind

/-- The act that ends with an error. -/
def fail (e : Error) : Act S α := fun s => (.error e, s)

/-- The state. -/
def get : Act S S := fun s => (.ok s, s)

/-- Replaces the state. -/
def set (s : S) : Act S Unit := fun _ => (.ok (), s)

/-- Changes the state. -/
def modify (f : S → S) : Act S Unit := fun s => (.ok (), f s)

/-- A value or an error that is known. -/
def ofExcept : Except Error α → Act S α
  | .ok a => Act.pure a
  | .error e => fail e

/-- Turns the error of an act into a value. -/
def attempt (x : Act S α) : Act S (Except Error α) := fun s =>
  match x s with
  | (r, s') => (.ok r, s')

/-- When an act fails, does another and fails again. An error of the second is
the one that is told. -/
def onError (x : Act S α) (cleanup : Act S Unit) : Act S α := fun s =>
  match x s with
  | (.ok a, s') => (.ok a, s')
  | (.error e, s') =>
    match cleanup s' with
    | (.ok _, s'') => (.error e, s'')
    | (.error e', s'') => (.error e', s'')

/-- Does a second act whatever comes of the first. An error of the second is
the one that is told. -/
def ensuring (x : Act S α) (cleanup : Act S Unit) : Act S α := fun s =>
  match x s with
  | (r, s') =>
    match cleanup s' with
    | (.ok _, s'') => (r, s'')
    | (.error e, s'') => (.error e, s'')

/-- An act on a part of the state. -/
def onFirst (x : Act S α) : Act (S × T) α := fun (s, t) =>
  match x s with
  | (r, s') => (r, (s', t))

/-- An act on the other part of the state. -/
def onSecond (x : Act T α) : Act (S × T) α := fun (s, t) =>
  match x t with
  | (r, t') => (r, (s, t'))

instance : MonadLift (Act S) (Act (S × T)) := ⟨onFirst⟩

/-- Does an act that keeps a record of its own, and gives the record with what
came of the act, be it an error. -/
def tracked (record : T) (x : Act (S × T) α) :
    Act S (Except Error α × T) := fun s =>
  match x (s, record) with
  | (r, (s', record')) => (.ok (r, record'), s')

/-- Does an act for each item, in order. -/
def each (f : β → Act S Unit) : List β → Act S Unit
  | [] => pure ()
  | b :: rest => do
    f b
    each f rest

/-- The values of an act for each item, in order. -/
def collect (f : β → Act S α) : List β → Act S (List α)
  | [] => pure []
  | b :: rest => do
    let a ← f b
    let as ← collect f rest
    return a :: as

end Act

end ShaderBindings
