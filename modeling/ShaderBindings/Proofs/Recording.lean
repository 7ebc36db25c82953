import ShaderBindings.Session

/-!
# Recordings

What an act adds to the trace of a session is what the device answered, one call
after the other, from the state that it was in. So acts that ask the same of the
same device are answered alike.
-/

namespace ShaderBindings.GL

variable {σ : Type} {gl : Device σ}

/-- From one state to another, the device gives just these answers. -/
inductive Device.Plays (gl : Device σ) :
    σ → List ShaderBindings.Event → σ → Prop
  | done {d : σ} : Device.Plays gl d [] d
  | call {d d' : σ} {call : Call} {es : List ShaderBindings.Event}
      (h : Device.Plays gl (gl call d).2 es d') :
    Device.Plays gl d (.gl ⟨call, (gl call d).1⟩ :: es) d'

theorem Device.Plays.append {d d' d'' : σ} {es es' : List ShaderBindings.Event}
    (h : gl.Plays d es d') (h' : gl.Plays d' es' d'') :
    gl.Plays d (es ++ es') d'' := by
  induction h with
  | done => exact h'
  | call _ ih => exact .call (ih h')

/-- The first answer, and those after it. -/
theorem Device.Plays.of_cons {call : Call} {r : Except ExternalFault call.Reply}
    {es : List ShaderBindings.Event} {d d' : σ}
    (h : gl.Plays d (.gl ⟨call, r⟩ :: es) d') :
    r = (gl call d).1 ∧ gl.Plays (gl call d).2 es d' := by
  generalize hall : ShaderBindings.Event.gl ⟨call, r⟩ :: es = all at h
  cases h with
  | done => cases hall
  | call h =>
    cases hall
    exact ⟨rfl, h⟩

theorem Device.Plays.eq_of_nil {d d' : σ} (h : gl.Plays d [] d') : d = d' := by
  cases h
  rfl

end ShaderBindings.GL

namespace ShaderBindings.Act

variable {σ K α β : Type} {gl : GL.Device σ}

/-- What an act adds to the trace. -/
def said (x : Act (Session σ × K) α) (p : Session σ × K) : List Event :=
  (x p).2.1.trace.drop p.1.trace.length

/-- The act adds to the trace, and what it adds are the answers of the
device. -/
structure Records (gl : GL.Device σ) (x : Act (Session σ × K) α) : Prop where
  trace : ∀ p, (x p).2.1.trace = p.1.trace ++ x.said p
  plays : ∀ p, gl.Plays p.1.devices (x.said p) (x p).2.1.devices

variable {x : Act (Session σ × K) α} {f : α → Act (Session σ × K) β}
variable {p : Session σ × K}

theorem said_eq {es : List Event} (h : (x p).2.1.trace = p.1.trace ++ es) :
    x.said p = es := by
  simp [said, h]

theorem perform_of_ok {call : GL.Call} {reply : call.Reply}
    (h : (gl call p.1.devices).1 = .ok reply) :
    (onFirst (gl.perform call) p).1 = .ok reply :=
  congrArg (Except.mapError Error.external) h

theorem perform_of_error {call : GL.Call} {fault : ExternalFault}
    (h : (gl call p.1.devices).1 = .error fault) :
    (onFirst (gl.perform call) p).1 = .error (.external fault) :=
  congrArg (Except.mapError Error.external) h

theorem said_perform (call : GL.Call) :
    (onFirst (gl.perform call) : Act (Session σ × K) _).said p =
      [.gl ⟨call, (gl call p.1.devices).1⟩] :=
  said_eq rfl

/-- What follows an act, by what came of it. -/
def next (f : α → Act (Session σ × K) β) :
    Except Error α → Act (Session σ × K) β
  | .ok a => f a
  | .error e => fail e

theorem bind_eq (x : Act (Session σ × K) α) (f : α → Act (Session σ × K) β)
    (p : Session σ × K) : (x >>= f) p = next f (x p).1 (x p).2 := by
  simp only [Bind.bind, Act.bind]
  rcases h : x p with ⟨_ | a, q⟩ <;> rfl

namespace Records

/-- An act that leaves the trace and the devices as they are. -/
theorem silent (htrace : ∀ p, (x p).2.1.trace = p.1.trace)
    (hdevices : ∀ p, (x p).2.1.devices = p.1.devices) : x.Records gl where
  trace := fun p => by
    rw [htrace, said_eq (by rw [htrace, List.append_nil]), List.append_nil]
  plays := fun p => by
    rw [hdevices, said_eq (by rw [htrace, List.append_nil])]
    exact .done

theorem fail (e : Error) :
    (Act.fail e : Act (Session σ × K) α).Records gl :=
  .silent (fun _ => rfl) fun _ => rfl

theorem next (hf : ∀ a, (f a).Records gl) (r : Except Error α) :
    (Act.next f r).Records gl := by
  cases r with
  | ok a => exact hf a
  | error e => exact fail e

theorem trace_bind (hx : x.Records gl) (hf : ∀ a, (f a).Records gl)
    (p : Session σ × K) : ((x >>= f) p).2.1.trace =
      p.1.trace ++ (x.said p ++ (Act.next f (x p).1).said (x p).2) := by
  rw [bind_eq, (next hf _).trace, hx.trace, List.append_assoc]

theorem said_bind (hx : x.Records gl) (hf : ∀ a, (f a).Records gl)
    (p : Session σ × K) : (x >>= f).said p =
      x.said p ++ (Act.next f (x p).1).said (x p).2 :=
  said_eq (hx.trace_bind hf p)

theorem bind (hx : x.Records gl) (hf : ∀ a, (f a).Records gl) :
    (x >>= f).Records gl where
  trace := fun p => by rw [hx.trace_bind hf, hx.said_bind hf]
  plays := fun p => by
    rw [hx.said_bind hf, bind_eq]
    exact (hx.plays p).append ((next hf _).plays _)

theorem perform (call : GL.Call) :
    (onFirst (gl.perform call) : Act (Session σ × K) _).Records gl where
  trace := fun p => by rw [said_perform]; rfl
  plays := fun p => by rw [said_perform]; exact .call .done

/-- A call, and an act on its reply. -/
theorem said_perform_bind {call : GL.Call}
    {f : call.Reply → Act (Session σ × K) β} (hf : ∀ a, (f a).Records gl)
    (p : Session σ × K) :
    (onFirst (gl.perform call) >>= f).said p =
      .gl ⟨call, (gl call p.1.devices).1⟩ ::
        (Act.next f (onFirst (gl.perform call) p).1).said
          (onFirst (gl.perform call) p).2 := by
  rw [(perform call).said_bind hf, said_perform, List.singleton_append]

end Records

end ShaderBindings.Act
