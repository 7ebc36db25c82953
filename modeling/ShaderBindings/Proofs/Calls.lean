import ShaderBindings.Session

/-!
# The calls of an act

What an act asks of a device, whatever the device answers. `Act.Makes` speaks of
every run of an act: of the calls of OpenGL it adds to the trace, of what comes
of it, and of what it keeps beside the session. There is one rule for each way
of building acts, so that the calls of a long act are read off step by step.
-/

namespace ShaderBindings.GL

variable {σ : Type}

/-- The device may give this result to this call. -/
def Device.Gives (gl : Device σ) (e : Event) : Prop :=
  ∃ d, (gl e.call d).1 = e.result

/-- The device never fails at a call. -/
def Device.Answers (gl : Device σ) (call : Call) : Prop :=
  ∀ d, ∃ reply, (gl call d).1 = .ok reply

theorem Device.perform_of_ok {gl : Device σ} {call : Call} {s : Session σ}
    {reply : call.Reply} (h : (gl call s.devices).1 = .ok reply) :
    gl.perform call s = (.ok reply,
      { s with
        devices := (gl call s.devices).2
        trace := s.trace ++ [.gl ⟨call, .ok reply⟩] }) := by
  simp only [perform, h]
  rfl

theorem Device.perform_of_error {gl : Device σ} {call : Call} {s : Session σ}
    {fault : ExternalFault} (h : (gl call s.devices).1 = .error fault) :
    gl.perform call s = (.error (.external fault),
      { s with
        devices := (gl call s.devices).2
        trace := s.trace ++ [.gl ⟨call, .error fault⟩] }) := by
  simp only [perform, h]
  rfl

/-- The fault of a call that failed. -/
def Event.fault? (e : Event) : Option ExternalFault :=
  match e.result with
  | .ok _ => none
  | .error fault => some fault

/-- The faults among events, in order. -/
def faults (es : List Event) : List ExternalFault :=
  es.filterMap Event.fault?

@[simp] theorem faults_nil : faults [] = [] := rfl

@[simp] theorem faults_cons_ok (call : Call) (reply : call.Reply)
    (es : List Event) :
    faults (⟨call, no_index (.ok reply)⟩ :: es) = faults es := rfl

@[simp] theorem faults_cons_error (call : Call) (fault : ExternalFault)
    (es : List Event) :
    faults (⟨call, no_index (.error fault)⟩ :: es) = fault :: faults es := rfl

@[simp] theorem faults_append (es es' : List Event) :
    faults (es ++ es') = faults es ++ faults es' := by
  simp [faults]

theorem Device.Answers.not_error {gl : Device σ} {call : Call}
    (h : gl.Answers call) {fault : ExternalFault}
    (hf : gl.Gives ⟨call, .error fault⟩) : False := by
  obtain ⟨d, hd⟩ := hf
  obtain ⟨reply, hr⟩ := h d
  rw [hr] at hd
  cases hd

/-- A device that never fails leaves no faults. -/
theorem Device.faults_eq_nil {gl : Device σ} (h : ∀ call, gl.Answers call)
    {es : List Event} (hes : ∀ e ∈ es, gl.Gives e) : faults es = [] := by
  rw [faults, List.filterMap_eq_nil_iff]
  intro e he
  obtain ⟨call, result⟩ := e
  cases result with
  | ok reply => rfl
  | error fault => exact ((h call).not_error (hes _ he)).elim

end ShaderBindings.GL

namespace ShaderBindings

variable {σ : Type}

namespace Act

variable {K α β : Type} {gl : GL.Device σ}

/-! ## Acts as a monad -/

theorem bind_assoc {S γ : Type} (x : Act S α) (f : α → Act S β)
    (g : β → Act S γ) : (x >>= f) >>= g = x >>= fun a => f a >>= g := by
  funext s
  simp only [Bind.bind, Act.bind]
  cases h : x s with
  | mk r s' => cases r <;> rfl

theorem map_id {S : Type} (x : Act S α) : id <$> x = x := by
  funext s
  simp only [Functor.map, Act.bind, Function.comp]
  cases h : x s with
  | mk r s' => cases r <;> rfl

instance {S : Type} : LawfulMonad (Act S) :=
  LawfulMonad.mk' (Act S) map_id (fun _ _ => rfl) bind_assoc

@[simp] theorem fail_bind {S : Type} (e : Error) (f : α → Act S β) :
    (Act.fail e >>= f) = Act.fail e :=
  rfl

@[simp] theorem ofExcept_ok {S : Type} (a : α) :
    (Act.ofExcept (.ok a) : Act S α) = Pure.pure a :=
  rfl

@[simp] theorem ofExcept_error {S : Type} (e : Error) :
    (Act.ofExcept (.error e) : Act S α) = Act.fail e :=
  rfl

/-- Two acts one after the other end as the first one if that fails, and else as
the second one. -/
theorem of_bind {S : Type} {x : Act S α} {f : α → Act S β} {s s'' : S}
    {r : Except Error β} (h : (x >>= f) s = (r, s'')) :
    (∃ e, r = .error e ∧ x s = (.error e, s'')) ∨
      ∃ a s', x s = (.ok a, s') ∧ f a s' = (r, s'') := by
  simp only [Bind.bind, Act.bind] at h
  cases hx : x s with
  | mk r s' =>
    rw [hx] at h
    cases r with
    | ok a => exact .inr ⟨a, s', rfl, h⟩
    | error e =>
      cases h
      exact .inl ⟨e, rfl, rfl⟩

/-- When two acts one after the other end with a value, both do. -/
theorem of_bind_ok {S : Type} {x : Act S α} {f : α → Act S β} {s s'' : S}
    {b : β} (h : (x >>= f) s = (.ok b, s'')) :
    ∃ a s', x s = (.ok a, s') ∧ f a s' = (.ok b, s'') := by
  obtain ⟨e, ⟨⟩, -⟩ | h := of_bind h
  exact h

theorem of_ofExcept_ok {S : Type} {r : Except Error α} {a : α} {s s' : S}
    (h : Act.ofExcept r s = (.ok a, s')) : r = .ok a ∧ s' = s := by
  cases r with
  | ok a' =>
    cases h
    exact ⟨rfl, rfl⟩
  | error e => cases h

/-! ## Acts on a part of the state -/

theorem of_onFirst {S T : Type} {x : Act S α} {p p' : S × T}
    {r : Except Error α} (h : onFirst x p = (r, p')) :
    x p.1 = (r, p'.1) ∧ p'.2 = p.2 := by
  cases h
  exact ⟨rfl, rfl⟩

@[simp] theorem onFirst_pure {S T : Type} (a : α) :
    (onFirst (Pure.pure a : Act S α) : Act (S × T) α) = Pure.pure a := rfl

@[simp] theorem onFirst_fail {S T : Type} (e : Error) :
    (onFirst (Act.fail e : Act S α) : Act (S × T) α) = Act.fail e := rfl

@[simp] theorem onFirst_bind {S T : Type} (x : Act S α) (f : α → Act S β) :
    (onFirst (x >>= f) : Act (S × T) β) =
      onFirst x >>= fun a => onFirst (f a) := by
  funext ⟨s, t⟩
  simp only [onFirst, Bind.bind, Act.bind]
  cases hx : x s with
  | mk r s' => cases r <;> rfl

/-! ## Calls -/

/-- From every session, with `k` kept beside it, the act adds calls to the trace
and nothing else. All of them were made to the device, and `post` holds of them,
of what comes of the act, and of what is kept then. -/
def Makes (gl : GL.Device σ) (x : Act (Session σ × K) α) (k : K)
    (post : List GL.Event → Except Error α → K → Prop) : Prop :=
  ∀ s, ∃ es r s' k', x (s, k) = (r, s', k') ∧
    s'.trace = s.trace ++ es.map .gl ∧ (∀ e ∈ es, gl.Gives e) ∧ post es r k'

variable {x : Act (Session σ × K) α} {f : α → Act (Session σ × K) β} {k : K}
variable {P : List GL.Event → Except Error α → K → Prop}
variable {Q : List GL.Event → Except Error β → K → Prop}

theorem Makes.mono {P' : List GL.Event → Except Error α → K → Prop}
    (hx : x.Makes gl k P) (h : ∀ es r k', P es r k' → P' es r k') :
    x.Makes gl k P' := by
  intro s
  obtain ⟨es, r, s', k', hrun, htrace, hgiven, hp⟩ := hx s
  exact ⟨es, r, s', k', hrun, htrace, hgiven, h _ _ _ hp⟩

theorem Makes.pure {a : α} (h : P [] (.ok a) k) :
    (Pure.pure a : Act (Session σ × K) α).Makes gl k P := fun s =>
  ⟨[], .ok a, s, k, rfl, by simp, by simp, h⟩

theorem Makes.fail {e : Error} (h : P [] (.error e) k) :
    (Act.fail e : Act (Session σ × K) α).Makes gl k P := fun s =>
  ⟨[], .error e, s, k, rfl, by simp, by simp, h⟩

/-- One act after another: the calls of both, or those of a first act that ends
with an error. -/
theorem Makes.bind (hx : x.Makes gl k P)
    (hok : ∀ es a k', P es (.ok a) k' →
      (f a).Makes gl k' fun es' r k'' => Q (es ++ es') r k'')
    (herror : ∀ es e k', P es (.error e) k' → Q es (.error e) k') :
    (x >>= f).Makes gl k Q := by
  intro s
  obtain ⟨es, r, s', k', hrun, htrace, hgiven, hp⟩ := hx s
  cases r with
  | error e =>
    refine ⟨es, .error e, s', k', ?_, htrace, hgiven, herror _ _ _ hp⟩
    simp [Bind.bind, Act.bind, hrun]
  | ok a =>
    obtain ⟨es', r', s'', k'', hrun', htrace', hgiven', hq⟩ := hok _ _ _ hp s'
    refine ⟨es ++ es', r', s'', k'', ?_, ?_, ?_, hq⟩
    · simp [Bind.bind, Act.bind, hrun, hrun']
    · simp [htrace', htrace]
    · intro e he
      exact (List.mem_append.mp he).elim (hgiven e) (hgiven' e)

/-- A call as the whole of an act. -/
theorem Makes.perform {call : GL.Call}
    {P : List GL.Event → Except Error call.Reply → K → Prop}
    (hok : ∀ reply, P [⟨call, .ok reply⟩] (.ok reply) k)
    (herror : ∀ fault, gl.Gives ⟨call, .error fault⟩ →
      P [⟨call, .error fault⟩] (.error (.external fault)) k) :
    (Act.onFirst (gl.perform call)).Makes gl k P := by
  intro s
  have hgives : gl.Gives ⟨call, (gl call s.devices).1⟩ := ⟨_, rfl⟩
  cases hr : (gl call s.devices).1 with
  | error fault =>
    rw [hr] at hgives
    refine ⟨[⟨call, .error fault⟩], .error (.external fault),
      (gl.perform call s).2, k, ?_, ?_, ?_, herror fault hgives⟩
    · simp [Act.onFirst, GL.Device.perform_of_error hr]
    · simp [GL.Device.perform_of_error hr]
    · simpa using hgives
  | ok reply =>
    rw [hr] at hgives
    refine ⟨[⟨call, .ok reply⟩], .ok reply, (gl.perform call s).2, k, ?_, ?_,
      ?_, hok reply⟩
    · simp [Act.onFirst, GL.Device.perform_of_ok hr]
    · simp [GL.Device.perform_of_ok hr]
    · simpa using hgives

/-- A call, and an act on its reply. -/
theorem Makes.perform_bind {call : GL.Call}
    {f : call.Reply → Act (Session σ × K) β}
    (hok : ∀ reply, (f reply).Makes gl k fun es r k' =>
      Q (⟨call, .ok reply⟩ :: es) r k')
    (herror : ∀ fault, gl.Gives ⟨call, .error fault⟩ →
      Q [⟨call, .error fault⟩] (.error (.external fault)) k) :
    (Act.onFirst (gl.perform call) >>= f).Makes gl k Q := by
  have hcall : (Act.onFirst (gl.perform call)).Makes gl k fun es r k' =>
      k' = k ∧ match r with
        | .ok reply => es = [⟨call, .ok reply⟩]
        | .error e => Q es (.error e) k :=
    .perform (fun _ => ⟨rfl, rfl⟩) fun fault hf => ⟨rfl, herror fault hf⟩
  refine hcall.bind ?_ ?_
  · rintro es reply k' ⟨rfl, rfl⟩
    exact hok reply
  · rintro es e k' ⟨rfl, hq⟩
    exact hq

/-- A call at which the device never fails, and an act on its reply. -/
theorem Makes.answered_bind {call : GL.Call} (h : gl.Answers call)
    {f : call.Reply → Act (Session σ × K) β}
    (hok : ∀ reply, (f reply).Makes gl k fun es r k' =>
      Q (⟨call, .ok reply⟩ :: es) r k') :
    (Act.onFirst (gl.perform call) >>= f).Makes gl k Q :=
  .perform_bind hok fun _ hf => (h.not_error hf).elim

/-- A call at which the device never fails. -/
theorem Makes.answered {call : GL.Call} (h : gl.Answers call) :
    (Act.onFirst (gl.perform call)).Makes gl k fun es r k' => k' = k ∧
      ∃ reply, es = [⟨call, .ok reply⟩] ∧ r = .ok reply :=
  .perform (fun reply => ⟨rfl, reply, rfl, rfl⟩)
    fun _ hf => (h.not_error hf).elim

/-- What is written to the log is no call. -/
theorem Makes.write_bind {level : Log.Level} {message : String}
    {f : Unit → Act (Session σ × K) β} (h : (f ()).Makes gl k Q) :
    (Act.onFirst (Session.write level message) >>= f).Makes gl k Q := fun s =>
  h { s with log := s.log ++ [⟨level, message⟩] }

/-- An act with a record of its own: its calls, and then those of an act on the
record and on what came of it. -/
theorem Makes.tracked_bind {T γ : Type} {record : T}
    {x : Act (Session σ × T) γ}
    {f : Except Error γ × T → Act (Session σ × K) β}
    {P : List GL.Event → Except Error γ → T → Prop}
    (hx : x.Makes gl record P)
    (hf : ∀ es r t, P es r t →
      (f (r, t)).Makes gl k fun es' r' k' => Q (es ++ es') r' k') :
    (Act.onFirst (Act.tracked record x) >>= f).Makes gl k Q := by
  intro s
  obtain ⟨es, r, s', t, hrun, htrace, hgiven, hp⟩ := hx s
  obtain ⟨es', r', s'', k', hrun', htrace', hgiven', hq⟩ := hf _ _ _ hp s'
  refine ⟨es ++ es', r', s'', k', ?_, ?_, ?_, hq⟩
  · simpa [Bind.bind, Act.bind, Act.onFirst, Act.tracked, hrun] using hrun'
  · simp [htrace', htrace]
  · intro e he
    exact (List.mem_append.mp he).elim (hgiven e) (hgiven' e)

/-- An act whose error is no end, and an act on what came of it. -/
theorem Makes.attempt_bind {f : Except Error α → Act (Session σ × K) β}
    (hx : x.Makes gl k P)
    (hf : ∀ es r k', P es r k' →
      (f r).Makes gl k' fun es' r' k'' => Q (es ++ es') r' k'') :
    (Act.attempt x >>= f).Makes gl k Q := by
  intro s
  obtain ⟨es, r, s', k', hrun, htrace, hgiven, hp⟩ := hx s
  obtain ⟨es', r', s'', k'', hrun', htrace', hgiven', hq⟩ := hf _ _ _ hp s'
  refine ⟨es ++ es', r', s'', k'', ?_, ?_, ?_, hq⟩
  · simpa [Bind.bind, Act.bind, Act.attempt, hrun] using hrun'
  · simp [htrace', htrace]
  · intro e he
    exact (List.mem_append.mp he).elim (hgiven e) (hgiven' e)

/-- An act, and after it one that is done in every case and does not fail. -/
theorem Makes.ensuring {R : List GL.Event → Except Error α → K → Prop}
    {cleanup : Act (Session σ × K) Unit} (hx : x.Makes gl k P)
    (hc : ∀ es r k', P es r k' →
      cleanup.Makes gl k' fun es' r' k'' => r' = .ok () ∧ R (es ++ es') r k'') :
    (Act.ensuring x cleanup).Makes gl k R := by
  intro s
  obtain ⟨es, r, s', k', hrun, htrace, hgiven, hp⟩ := hx s
  obtain ⟨es', _, s'', k'', hrun', htrace', hgiven', rfl, hr⟩ := hc _ _ _ hp s'
  refine ⟨es ++ es', r, s'', k'', ?_, ?_, ?_, hr⟩
  · simp [Act.ensuring, hrun, hrun']
  · simp [htrace', htrace]
  · intro e he
    exact (List.mem_append.mp he).elim (hgiven e) (hgiven' e)

/-- An act for each item, when the calls for an item are known. -/
theorem Makes.each {f : β → Act (Session σ) Unit} {calls : β → List GL.Event}
    (hf : ∀ b, (Act.onFirst (f b)).Makes gl k fun es r k' =>
      es = calls b ∧ r = .ok () ∧ k' = k) (bs : List β) :
    (Act.onFirst (Act.each f bs)).Makes gl k fun es r k' =>
      es = bs.flatMap calls ∧ r = .ok () ∧ k' = k := by
  induction bs with
  | nil => exact .pure ⟨rfl, rfl, rfl⟩
  | cons b rest ih =>
    simp only [Act.each, onFirst_bind]
    refine .bind (hf b) ?_ ?_
    · rintro es a k' ⟨rfl, -, rfl⟩
      refine ih.mono ?_
      rintro es r k' ⟨rfl, rfl, rfl⟩
      exact ⟨rfl, rfl, rfl⟩
    · rintro es e k' ⟨-, h, -⟩
      cases h

/-- The calls come to an end with one that fails. -/
def BrokenOff (allowed : GL.Call → Bool) (es : List GL.Event)
    (r : Except Error α) : Prop :=
  ∃ fault, GL.faults es = [fault] ∧ (∀ e ∈ es, allowed e.call = true) ∧
    r = .error (.external fault)

theorem BrokenOff.append {allowed : GL.Call → Bool} {es es' : List GL.Event}
    {r : Except Error α} (h : BrokenOff allowed es' r) (hes : GL.faults es = [])
    (hallowed : ∀ e ∈ es, allowed e.call = true) :
    BrokenOff allowed (es ++ es') r := by
  obtain ⟨fault, hfaults, hcalls, rfl⟩ := h
  refine ⟨fault, by simp [hes, hfaults], fun e he => ?_, rfl⟩
  exact (List.mem_append.mp he).elim (hallowed e) (hcalls e)

theorem BrokenOff.cons {allowed : GL.Call → Bool} {e : GL.Event}
    {es : List GL.Event} {r : Except Error α} (h : BrokenOff allowed es r)
    (he : e.fault? = none) (hallowed : allowed e.call = true) :
    BrokenOff allowed (e :: es) r :=
  BrokenOff.append h (by simp [GL.faults, he])
    (List.forall_mem_singleton.mpr hallowed)

theorem BrokenOff.of_error {allowed : GL.Call → Bool} {es : List GL.Event}
    {e : Error} (h : BrokenOff allowed es (.error e : Except Error α)) :
    BrokenOff allowed es (.error e : Except Error β) := by
  obtain ⟨fault, hfaults, hcalls, ⟨⟩⟩ := h
  exact ⟨fault, hfaults, hcalls, rfl⟩

/-- The calls are answered, and the answers have a value; or one call fails. -/
def Answered {γ : Type} (allowed : GL.Call → Bool) (calls : γ → List GL.Event)
    (value : γ → α) (es : List GL.Event) (r : Except Error α) : Prop :=
  (∃ c, es = calls c ∧ r = .ok (value c)) ∨ BrokenOff allowed es r

theorem Makes.call {allowed : GL.Call → Bool} {call : GL.Call}
    (hallowed : allowed call = true) :
    (Act.onFirst (gl.perform call)).Makes gl k fun es r k' => k' = k ∧
      Answered allowed (fun reply => [⟨call, .ok reply⟩]) id es r :=
  .perform (fun reply => ⟨rfl, .inl ⟨reply, rfl, rfl⟩⟩) fun fault _ =>
    ⟨rfl, .inr ⟨fault, rfl, by simpa using hallowed, rfl⟩⟩

/-- A call of whose answer something is made. -/
theorem Makes.call_bind {allowed : GL.Call → Bool} {call : GL.Call}
    {value : call.Reply → α} (hallowed : allowed call = true) :
    (Act.onFirst (gl.perform call >>= fun reply =>
      Pure.pure (value reply))).Makes gl k fun es r k' => k' = k ∧
        Answered allowed (fun reply => [⟨call, .ok reply⟩]) value es r := by
  simp only [onFirst_bind, onFirst_pure]
  refine .bind (.call hallowed) ?_ ?_
  · rintro es _ k' ⟨rfl, ⟨reply, rfl, ⟨⟩⟩ | ⟨_, -, -, ⟨⟩⟩⟩
    exact .pure ⟨rfl, .inl ⟨reply, rfl, rfl⟩⟩
  · rintro es e k' ⟨rfl, ⟨_, -, ⟨⟩⟩ | hbroken⟩
    exact ⟨rfl, .inr hbroken.of_error⟩

/-- The values of an act for each item, when the act is a call. Either all calls
are answered, or one fails. -/
theorem Makes.collect {γ : Type} {f : β → Act (Session σ) α}
    {event : β → γ → GL.Event} {value : γ → α} {allowed : GL.Call → Bool}
    (hf : ∀ b, (Act.onFirst (f b)).Makes gl k fun es r k' => k' = k ∧
      Answered allowed (fun c => [event b c]) value es r)
    (hfault : ∀ b c, (event b c).fault? = none)
    (hallowed : ∀ b c, allowed (event b c).call = true) (bs : List β) :
    (Act.onFirst (Act.collect f bs)).Makes gl k fun es r k' => k' = k ∧
      ((∃ cs : List γ, cs.length = bs.length ∧
          es = List.zipWith event bs cs ∧ r = .ok (cs.map value)) ∨
        BrokenOff allowed es r) := by
  induction bs with
  | nil => exact .pure ⟨rfl, .inl ⟨[], rfl, rfl, rfl⟩⟩
  | cons b rest ih =>
    simp only [Act.collect, onFirst_bind, onFirst_pure]
    refine .bind (hf b) ?_ ?_
    · rintro es a k' ⟨rfl, ⟨c, rfl, ⟨⟩⟩ | ⟨fault, -, -, ⟨⟩⟩⟩
      refine .bind ih ?_ ?_
      · rintro es' as k'' ⟨rfl, ⟨cs, hlength, rfl, ⟨⟩⟩ | ⟨fault, -, -, ⟨⟩⟩⟩
        exact .pure ⟨rfl, .inl ⟨c :: cs, by simp [hlength], by simp, rfl⟩⟩
      · rintro es' e k'' ⟨rfl, ⟨cs, -, -, ⟨⟩⟩ | hbroken⟩
        exact ⟨rfl, .inr (hbroken.cons (hfault b c) (hallowed b c))⟩
    · rintro es e k' ⟨rfl, ⟨c, -, ⟨⟩⟩ | hbroken⟩
      exact ⟨rfl, .inr hbroken.of_error⟩

/-- Looking at what is kept is no call. -/
theorem Makes.get_bind {f : Session σ × K → Act (Session σ × K) β}
    (h : ∀ s, (f (s, k)).Makes gl k Q) : (Act.get >>= f).Makes gl k Q :=
  fun s => h s s

/-- Changing what is kept is no call. -/
theorem Makes.modify_bind {g : K → K} {f : Unit → Act (Session σ × K) β}
    (h : (f ()).Makes gl (g k) Q) :
    (Act.onSecond (Act.modify g) >>= f).Makes gl k Q :=
  h

/-- What an act does of which a run is known. -/
theorem Makes.of_run {s s' : Session σ} {k' : K} {r : Except Error α}
    (hx : x.Makes gl k P) (h : x (s, k) = (r, s', k')) :
    ∃ es, s'.trace = s.trace ++ es.map .gl ∧ (∀ e ∈ es, gl.Gives e) ∧
      P es r k' := by
  obtain ⟨es, r', s'', k'', hrun, htrace, hgiven, hp⟩ := hx s
  rw [h] at hrun
  cases hrun
  exact ⟨es, htrace, hgiven, hp⟩

/-- What an act does that runs beside nothing. -/
theorem Makes.of_onFirst {x : Act (Session σ) α}
    (hx : (Act.onFirst x).Makes gl k P) (s : Session σ) :
    ∃ es, (x s).2.trace = s.trace ++ es.map .gl ∧ (∀ e ∈ es, gl.Gives e) ∧
      P es (x s).1 k :=
  hx.of_run rfl

/-! ## Allowed calls -/

/-- Whatever is kept beside the session, the act makes no calls but those that
are allowed. -/
def MakesOnly (gl : GL.Device σ) (allowed : GL.Call → Bool)
    (x : Act (Session σ × K) α) : Prop :=
  ∀ k, x.Makes gl k fun es _ _ => ∀ e ∈ es, allowed e.call = true

namespace MakesOnly

variable {allowed : GL.Call → Bool}

theorem pure (a : α) :
    (Pure.pure a : Act (Session σ × K) α).MakesOnly gl allowed :=
  fun _ => .pure (by simp)

theorem fail (e : Error) :
    (Act.fail e : Act (Session σ × K) α).MakesOnly gl allowed :=
  fun _ => .fail (by simp)

theorem bind (hx : x.MakesOnly gl allowed)
    (hf : ∀ a, (f a).MakesOnly gl allowed) :
    (x >>= f).MakesOnly gl allowed := by
  intro k
  refine .bind (hx k) ?_ fun _ _ _ hes => hes
  intro es a k' hes
  refine (hf a k').mono ?_
  intro es' r k'' hes'
  exact List.forall_mem_append.mpr ⟨hes, hes'⟩

theorem perform {call : GL.Call} (h : allowed call = true) :
    (Act.onFirst (gl.perform call) : Act (Session σ × K) _).MakesOnly gl
      allowed :=
  fun _ => .perform (fun _ => by simpa using h) fun _ _ => by simpa using h

theorem modify (g : K → K) :
    (Act.onSecond (Act.modify g) : Act (Session σ × K) Unit).MakesOnly gl
      allowed :=
  fun k s => ⟨[], .ok (), s, g k, rfl, by simp, by simp, by simp⟩

theorem attempt (hx : x.MakesOnly gl allowed) :
    (Act.attempt x).MakesOnly gl allowed := by
  intro k s
  obtain ⟨es, r, s', k', hrun, htrace, hgiven, hes⟩ := hx k s
  refine ⟨es, .ok r, s', k', ?_, htrace, hgiven, hes⟩
  simp only [Act.attempt, hrun]

/-- Only the calls with the record that the act starts with count. -/
theorem tracked {T γ : Type} {record : T} {x : Act (Session σ × T) γ}
    (hx : x.Makes gl record fun es _ _ => ∀ e ∈ es, allowed e.call = true) :
    (Act.onFirst (Act.tracked record x) : Act (Session σ × K) _).MakesOnly gl
      allowed := by
  intro k s
  obtain ⟨es, r, s', t, hrun, htrace, hgiven, hes⟩ := hx s
  refine ⟨es, .ok (r, t), s', k, ?_, htrace, hgiven, hes⟩
  simp only [Act.onFirst, Act.tracked, hrun]

theorem each {f : β → Act (Session σ) Unit}
    (hf : ∀ b,
      (Act.onFirst (f b) : Act (Session σ × K) Unit).MakesOnly gl allowed)
    (bs : List β) :
    (Act.onFirst (Act.each f bs) : Act (Session σ × K) Unit).MakesOnly gl
      allowed := by
  induction bs with
  | nil => exact pure ()
  | cons b rest ih =>
    simp only [Act.each, onFirst_bind]
    exact bind (hf b) fun _ => ih

end MakesOnly

end Act

/-! ## Calls of a session -/

/-- The call of OpenGL that was made. -/
def Event.gl? : Event → Option GL.Event
  | .gl event => some event
  | _ => none

/-- The calls of OpenGL that were made so far. -/
def Session.calls (s : Session σ) : List GL.Event :=
  s.trace.filterMap Event.gl?

theorem Session.calls_eq {s s' : Session σ} {es : List GL.Event}
    (h : s'.trace = s.trace ++ es.map .gl) : s'.calls = s.calls ++ es := by
  simp [Session.calls, h, List.filterMap_map, Function.comp_def, Event.gl?]

/-! ## A device for examples -/

/-- A device that gives out handles in order and finds nothing wrong. It refuses
some calls, and reports the same active uniforms of every program. -/
def GL.Device.numbering (refuses : GL.Call → Bool)
    (uniforms : List (RawText × Int)) : GL.Device Nat := fun call n =>
  if refuses call then (.error (.failed call.name), n)
  else match call with
    | .createProgram | .createShader _ | .generateTexture =>
      (.ok (n + 1), n + 1)
    | .compileStatus _ | .linkStatus _ => (.ok true, n)
    | .shaderInfoLog _ | .programInfoLog _ | .versionText => (.ok none, n)
    | .attributeCount _ => (.ok 0, n)
    | .uniformCount _ => (.ok uniforms.length, n)
    | .activeAttribute .. => (.ok (.text "", 0), n)
    | .activeUniform _ i _ => (.ok (uniforms.getD i.toNat (.text "", 0)), n)
    | .attributeLocation .. | .uniformLocation .. | .versionPart _ => (.ok 0, n)
    | .deleteProgram _ | .shaderSource .. | .compileShader _ | .attachShader ..
    | .detachShader .. | .deleteShader _ | .linkProgram _ | .useProgram _
    | .activeTexture _ | .bindTexture .. | .enableAttribute _ | .passUnit ..
    | .passUniform .. | .deleteTexture _ => (.ok (), n)

theorem GL.Device.numbering_answers {refuses : GL.Call → Bool}
    {uniforms : List (RawText × Int)} {call : GL.Call}
    (h : refuses call = false) :
    (GL.Device.numbering refuses uniforms).Answers call := by
  intro n
  simp only [numbering, h, Bool.false_eq_true, if_false]
  cases call <;> exact ⟨_, rfl⟩

end ShaderBindings
