import Mathlib.Data.Prod.Lex
import ShaderBindings.Context
import ShaderBindings.Proofs.Calls
import ShaderBindings.Window.Scripted

/-!
# Contexts — Bracket

A hidden window is opened call by call, up to the first call that fails.
Whatever comes of it, and of what is done inside the context, all that has been
set up is taken down by the last calls, and nothing is taken down before.
Inside, the version of the context is at least the one it is made for.
-/

namespace ShaderBindings

/-! ## The order of versions -/

/-- A version as a pair, the major number counting first. -/
def Version.lex (v : Version) : ℤ ×ₗ ℤ :=
  toLex (v.major, v.minor)

theorem Version.before_iff {v w : Version} :
    v.before w = true ↔ v.lex < w.lex := by
  simp [before, lex, Prod.Lex.toLex_lt_toLex]

theorem Version.before_eq_false_iff {v w : Version} :
    v.before w = false ↔ w.lex ≤ v.lex := by
  rw [← Bool.not_eq_true, before_iff, not_lt]

namespace Context

variable {request v : Version}

/-- A version that may be asked for. -/
def Admissible (request : Version) : Prop :=
  0 ≤ request.major ∧ 0 ≤ request.minor ∧
    request.lex ≤ (⟨4, 6⟩ : Version).lex

theorem configure_of_admissible (h : Admissible request) :
    ∃ v, configure request = .ok v ∧
      v.lex = max request.lex (⟨3, 0⟩ : Version).lex := by
  obtain ⟨hmajor, hminor, hmaximum⟩ := h
  change request.lex ≤ maximumVersion.lex at hmaximum
  change ∃ v : Version, _ ∧ v.lex = max request.lex minimumVersion.lex
  have hnegative : (request.major < 0 || request.minor < 0) = false := by
    simp [hmajor, hminor]
  rw [← Version.before_eq_false_iff] at hmaximum
  rw [configure, hnegative, hmaximum]
  cases hbefore : request.before minimumVersion with
  | true =>
    rw [Version.before_iff] at hbefore
    exact ⟨minimumVersion, rfl, (max_eq_right hbefore.le).symm⟩
  | false =>
    rw [Version.before_eq_false_iff] at hbefore
    exact ⟨request, rfl, (max_eq_left hbefore).symm⟩

theorem configure_of_not_admissible (h : ¬ Admissible request) :
    ∃ fault, configure request = .error (.context fault) := by
  unfold configure
  split
  · exact ⟨_, rfl⟩
  · rename_i hnegative
    split
    · exact ⟨_, rfl⟩
    · rename_i hmaximum
      rw [Bool.not_eq_true, Version.before_eq_false_iff] at hmaximum
      simp only [Bool.or_eq_true, decide_eq_true_eq, not_or, Int.not_lt]
        at hnegative
      exact absurd ⟨hnegative.1, hnegative.2, hmaximum⟩ h

end Context

/-! ## Calls of the window system -/

namespace Window

/-- The error that a reply stands for: the system has not started, or there is
no window. -/
def Call.refusal? : (call : Call) → call.Reply → Option Error
  | .start, started =>
    if started then none else some (.context .noWindowSystem)
  | .createWindow, window =>
    if window = 0 then some (.context .noWindow) else none
  | .hint _, _ | .makeCurrent _, _ | .createContext, _ | .destroyWindow _, _
  | .stop, _ => none

/-- The error that comes of a call, if it fails or reports a failure. -/
def Event.failure? (e : Event) : Option Error :=
  match e.result with
  | .error fault => some (.external fault)
  | .ok reply => e.call.refusal? reply

/-- Taking down never fails. -/
structure System.TakesDown {σ : Type} (system : System σ) : Prop where
  destroys : ∀ window d, (system (.destroyWindow window) d).1 = .ok ()
  stops : ∀ d, (system .stop d).1 = .ok ()

/-- Of the calls that were to be made, the first were made, up to one from which
an error came. -/
inductive CutShort (error : Error) : List Event → List Event → Prop
  | here {e e' : Event} {planned : List Event} (hcall : e'.call = e.call)
      (h : e'.failure? = some error) : CutShort error (e :: planned) [e']
  | later {e : Event} {planned made : List Event}
      (h : CutShort error planned made) :
    CutShort error (e :: planned) (e :: made)

theorem CutShort.exists_failure {error : Error} {planned made : List Event}
    (h : CutShort error planned made) :
    ∃ e ∈ made, e.failure? = some error := by
  induction h with
  | here _ h => exact ⟨_, List.mem_cons_self, h⟩
  | later _ ih =>
    obtain ⟨e, he, h⟩ := ih
    exact ⟨e, List.mem_cons_of_mem _ he, h⟩

/-- No call says that a context is too old. -/
theorem CutShort.ne_tooOld {planned made : List Event} {actual v : Version} :
    ¬ CutShort (.contextTooOld actual v) planned made := by
  intro h
  obtain ⟨⟨call, result⟩, -, h⟩ := h.exists_failure
  cases result with
  | error fault => cases h
  | ok reply =>
    cases call with
    | start => cases reply <;> cases h
    | createWindow =>
      simp only [Event.failure?, Call.refusal?] at h
      split at h <;> cases h
    | hint | makeCurrent | createContext | destroyWindow | stop => cases h

variable {σ : Type} {system : System σ} {call : Call} {s : Session σ}

theorem System.perform_of_ok {reply : call.Reply}
    (h : (system call s.devices).1 = .ok reply) :
    system.perform call s = (.ok reply,
      { s with
        devices := (system call s.devices).2
        trace := s.trace ++ [.window ⟨call, .ok reply⟩] }) := by
  simp only [perform, h]
  rfl

theorem System.perform_of_error {fault : ExternalFault}
    (h : (system call s.devices).1 = .error fault) :
    system.perform call s = (.error (.external fault),
      { s with
        devices := (system call s.devices).2
        trace := s.trace ++ [.window ⟨call, .error fault⟩] }) := by
  simp only [perform, h]
  rfl

end Window

/-! ## What an act asks of a window system -/

namespace Act

variable {σ α β : Type} {system : Window.System σ}
variable {x : Act (Session σ) α} {f : α → Act (Session σ) β}
variable {P : List Window.Event → Except Error α → Prop}
variable {Q : List Window.Event → Except Error β → Prop}

theorem bind_of_ok {S : Type} {x : Act S α} {f : α → Act S β} {a : α}
    {s s' : S} (h : x s = (.ok a, s')) : (x >>= f) s = f a s' := by
  simp only [Bind.bind, Act.bind, h]

theorem bind_of_error {S : Type} {x : Act S α} {f : α → Act S β} {e : Error}
    {s s' : S} (h : x s = (.error e, s')) : (x >>= f) s = (.error e, s') := by
  simp only [Bind.bind, Act.bind, h]

theorem onError_of_ok {S : Type} {x : Act S α} {cleanup : Act S Unit} {a : α}
    {s s' : S} (h : x s = (.ok a, s')) :
    Act.onError x cleanup s = (.ok a, s') := by
  simp only [Act.onError, h]

theorem onError_of_error {S : Type} {x : Act S α} {cleanup : Act S Unit}
    {e : Error} {s s' s'' : S} (h : x s = (.error e, s'))
    (hc : cleanup s' = (.ok (), s'')) :
    Act.onError x cleanup s = (.error e, s'') := by
  simp only [Act.onError, h, hc]

/-- From every session, the act makes calls of a window system only, and `post`
holds of them and of what comes of the act. -/
def Asks (x : Act (Session σ) α)
    (post : List Window.Event → Except Error α → Prop) : Prop :=
  ∀ s, ∃ es, (x s).2.trace = s.trace ++ es.map .window ∧ post es (x s).1

namespace Asks

theorem pure {a : α} (h : P [] (.ok a)) :
    (Pure.pure a : Act (Session σ) α).Asks P :=
  fun _ => ⟨[], by simp [Pure.pure, Act.pure], h⟩

theorem fail {e : Error} (h : P [] (.error e)) :
    (Act.fail e : Act (Session σ) α).Asks P :=
  fun _ => ⟨[], by simp [Act.fail], h⟩

theorem mono {P' : List Window.Event → Except Error α → Prop}
    (hx : x.Asks P) (h : ∀ es r, P es r → P' es r) : x.Asks P' := by
  intro s
  obtain ⟨es, htrace, hp⟩ := hx s
  exact ⟨es, htrace, h _ _ hp⟩

/-- A call, and an act on its reply. -/
theorem perform_bind {call : Window.Call} {f : call.Reply → Act (Session σ) β}
    (hok : ∀ reply, (f reply).Asks fun es r => Q (⟨call, .ok reply⟩ :: es) r)
    (herror : ∀ fault, Q [⟨call, .error fault⟩] (.error (.external fault))) :
    (system.perform call >>= f).Asks Q := by
  intro s
  cases hr : (system call s.devices).1 with
  | error fault =>
    refine ⟨[⟨call, .error fault⟩], ?_, ?_⟩ <;>
    simp [Bind.bind, Act.bind, Window.System.perform_of_error hr, herror]
  | ok reply =>
    obtain ⟨es, htrace, hq⟩ := hok reply (system.perform call s).2
    rw [Window.System.perform_of_ok hr] at htrace hq
    refine ⟨⟨call, .ok reply⟩ :: es, ?_, ?_⟩ <;>
    simp [Bind.bind, Act.bind, Window.System.perform_of_ok hr, htrace, hq]

/-- What is written to the log is no call. -/
theorem write_bind {level : Log.Level} {message : String}
    {f : Unit → Act (Session σ) β} (h : (f ()).Asks Q) :
    (Session.write level message >>= f).Asks Q := fun s =>
  h { s with log := s.log ++ [⟨level, message⟩] }

end Asks

end Act

/-! ## Opening a window -/

namespace Context

open Window (CutShort)

variable {σ α : Type} {system : Window.System σ} {v : Version}

/-- The wishes about the window. -/
def wishes (v : Version) : List Window.Hint :=
  [.hidden, .contextMajor v.major, .contextMinor v.minor,
    .forwardCompatible] ++
  if v.before ⟨3, 2⟩ then [] else [.coreProfile]

/-- The calls that make a window. -/
def windowEvents (v : Version) (window : Int) : List Window.Event :=
  (wishes v).map (fun wish => ⟨.hint wish, .ok ()⟩) ++
    [⟨.createWindow, .ok window⟩]

/-- The calls that make its context. -/
def contextEvents (window : Int) (info : Window.ContextInfo) :
    List Window.Event :=
  [⟨.makeCurrent window, .ok ()⟩, ⟨.createContext, .ok info⟩]

/-- The calls are made that make a window, and give it; or they are cut
short. -/
def Opened (planned : Int → List Window.Event) (es : List Window.Event)
    (r : Except Error Int) : Prop :=
  (∃ window, window ≠ 0 ∧ es = planned window ∧ r = .ok window) ∨
    ∃ window error, CutShort error (planned window) es ∧ r = .error error

theorem createWindow_asks (system : Window.System σ) :
    (do let window ← system.perform .createWindow
        if window = 0 then Act.fail (.context .noWindow)
        return window).Asks
      (Opened fun window => [⟨.createWindow, .ok window⟩]) := by
  refine .perform_bind (fun window => ?_) fun fault =>
    .inr ⟨0, _, .here rfl rfl, rfl⟩
  by_cases hwindow : window = 0
  · rw [if_pos hwindow]
    exact .fail (.inr ⟨0, _, .here rfl (if_pos hwindow), rfl⟩)
  · rw [if_neg hwindow]
    exact .pure (.inl ⟨window, hwindow, rfl, rfl⟩)

/-- A wish, and what comes after it. -/
theorem wish_bind {wish : Window.Hint} {f : Unit → Act (Session σ) Int}
    {planned : Int → List Window.Event} (h : (f ()).Asks (Opened planned)) :
    (system.perform (.hint wish) >>= f).Asks
      (Opened fun window => ⟨.hint wish, .ok ()⟩ :: planned window) := by
  refine .perform_bind (fun _ => ?_) fun fault =>
    .inr ⟨0, _, .here rfl rfl, rfl⟩
  refine h.mono ?_
  rintro es r (⟨window, hwindow, rfl, rfl⟩ | ⟨window, error, hcut, rfl⟩)
  · exact .inl ⟨window, hwindow, rfl, rfl⟩
  · exact .inr ⟨window, error, .later hcut, rfl⟩

theorem openWindow_asks (system : Window.System σ) (v : Version) :
    (openWindow system v).Asks (Opened (windowEvents v)) := by
  unfold openWindow windowEvents wishes coreProfileVersion
  cases v.before ⟨3, 2⟩ with
  | true =>
    exact wish_bind (wish_bind (wish_bind (wish_bind
      (createWindow_asks system))))
  | false =>
    exact wish_bind (wish_bind (wish_bind (wish_bind (wish_bind
      (createWindow_asks system)))))

/-- The context is made and told of, and refused if it is too old; or the calls
are cut short. -/
def Checked (v : Version) (window : Int) (es : List Window.Event)
    (r : Except Error Unit) : Prop :=
  (∃ info actual, StandsFor info.versionCode actual ∧
    es = contextEvents window info ∧
    r = if actual.before v then .error (.contextTooOld actual v)
      else .ok ()) ∨
    ∃ info error, CutShort error (contextEvents window info) es ∧
      r = .error error

theorem checkWindow_asks (system : Window.System σ) (v : Version)
    (window : Int) :
    (checkWindow system v window).Asks (Checked v window) := by
  unfold checkWindow
  refine .perform_bind (fun _ => ?_) fun fault =>
    .inr ⟨⟨0, none⟩, _, .here rfl rfl, rfl⟩
  refine .perform_bind (fun info => ?_) fun fault =>
    .inr ⟨⟨0, none⟩, _, .later (.here rfl rfl), rfl⟩
  refine .write_bind ?_
  have hcode := standsFor_versionOfCode info.versionCode
  split
  · rename_i hold
    exact .fail (.inl ⟨info, _, hcode, rfl, (if_pos hold).symm⟩)
  · rename_i hnew
    exact .pure (.inl ⟨info, _, hcode, rfl, (if_neg hnew).symm⟩)

/-! ## Taking down -/

/-- The call that stops the window system. -/
def stopped : Window.Event := ⟨.stop, .ok ()⟩

/-- The calls that take a window down. -/
def closeEvents (window : Int) : List Window.Event :=
  [⟨.destroyWindow window, .ok ()⟩, stopped]

theorem stop_run (h : system.TakesDown) (s : Session σ) :
    ∃ s', system.perform .stop s = (.ok (), s') ∧
      s'.trace = s.trace ++ [stopped].map .window :=
  ⟨_, Window.System.perform_of_ok (h.stops _), rfl⟩

theorem closeWindow_run (h : system.TakesDown) (window : Int) (s : Session σ) :
    ∃ s', closeWindow system window s = (.ok (), s') ∧
      s'.trace = s.trace ++ (closeEvents window).map .window := by
  obtain ⟨s', hstop, htrace⟩ := stop_run h
    (system.perform (.destroyWindow window) s).2
  have hdestroy :=
    Window.System.perform_of_ok (s := s) (h.destroys window s.devices)
  rw [hdestroy] at hstop htrace
  refine ⟨s', ?_, by simp [htrace, closeEvents]⟩
  rw [closeWindow, Act.bind_of_ok hdestroy, hstop]

/-! ## The whole context -/

/-- How a context is entered: the window system is started, a window is made and
then its context. -/
inductive Entered (v : Version) (s : Session σ) :
    Except Error Int → Session σ → Prop
  /-- Nothing else is called if the system does not start. -/
  | notStarted {e : Window.Event} {error : Error} {s' : Session σ}
      (hcall : e.call = .start) (h : e.failure? = some error)
      (htrace : s'.trace = s.trace ++ [e].map .window) :
    Entered v s (.error error) s'
  /-- The system is stopped when there is no window. -/
  | noWindow {window : Int} {es : List Window.Event} {error : Error}
      {s' : Session σ} (h : CutShort error (windowEvents v window) es)
      (htrace : s'.trace =
        s.trace ++ (⟨.start, .ok true⟩ :: (es ++ [stopped])).map .window) :
    Entered v s (.error error) s'
  /-- The window is taken down when its context cannot be made. -/
  | noContext {window : Int} {info : Window.ContextInfo}
      {es : List Window.Event} {error : Error} {s' : Session σ}
      (hwindow : window ≠ 0) (h : CutShort error (contextEvents window info) es)
      (htrace : s'.trace = s.trace ++ (⟨.start, .ok true⟩ ::
        (windowEvents v window ++ (es ++ closeEvents window))).map .window) :
    Entered v s (.error error) s'
  /-- So it is when the context is too old, after all calls have succeeded. -/
  | tooOld {window : Int} {info : Window.ContextInfo} {actual : Version}
      {s' : Session σ} (hwindow : window ≠ 0)
      (hcode : StandsFor info.versionCode actual) (hold : actual.lex < v.lex)
      (htrace : s'.trace = s.trace ++ (⟨.start, .ok true⟩ ::
        (windowEvents v window ++ (contextEvents window info ++
          closeEvents window))).map .window) :
    Entered v s (.error (.contextTooOld actual v)) s'
  /-- All calls have succeeded, and the context is new enough. -/
  | ready {window : Int} {info : Window.ContextInfo} {actual : Version}
      {s' : Session σ} (hwindow : window ≠ 0)
      (hcode : StandsFor info.versionCode actual) (hnew : v.lex ≤ actual.lex)
      (htrace : s'.trace = s.trace ++ (⟨.start, .ok true⟩ ::
        (windowEvents v window ++ contextEvents window info)).map .window) :
    Entered v s (.ok window) s'

/-- The part of entering that follows the start. -/
def openContext (system : Window.System σ) (v : Version) :
    Act (Session σ) Int := do
  let window ← Act.onError (openWindow system v) (system.perform .stop)
  Act.onError (checkWindow system v window) (closeWindow system window)
  return window

theorem openContext_entered (h : system.TakesDown) (v : Version)
    {s s₀ : Session σ}
    (hstart : s₀.trace = s.trace ++ [.window ⟨.start, .ok true⟩]) :
    Entered v s (openContext system v s₀).1 (openContext system v s₀).2 := by
  obtain ⟨es, htrace, hopened⟩ := openWindow_asks system v s₀
  cases hopen : openWindow system v s₀ with
  | mk r s₁ =>
  rw [hopen] at htrace hopened
  dsimp only at htrace
  obtain ⟨window, hwindow, rfl, rfl⟩ | ⟨window, error, hcut, rfl⟩ := hopened
  · rw [openContext, Act.bind_of_ok (Act.onError_of_ok hopen)]
    obtain ⟨es, htrace', hchecked⟩ := checkWindow_asks system v window s₁
    cases hcheck : checkWindow system v window s₁ with
    | mk r s₂ =>
    rw [hcheck] at htrace' hchecked
    dsimp only at htrace'
    obtain ⟨s₃, hclose, htrace₃⟩ := closeWindow_run h window s₂
    obtain ⟨info, actual, hcode, rfl, rfl⟩ | ⟨info, error, hcut, rfl⟩ :=
      hchecked
    · cases hold : actual.before v with
      | true =>
        rw [hold, if_pos rfl] at hcheck
        rw [Act.bind_of_error (Act.onError_of_error hcheck hclose)]
        exact .tooOld hwindow hcode (Version.before_iff.mp hold)
          (by simp [htrace₃, htrace', htrace, hstart])
      | false =>
        rw [hold, if_neg Bool.false_ne_true] at hcheck
        rw [Act.bind_of_ok (Act.onError_of_ok hcheck)]
        exact .ready hwindow hcode (Version.before_eq_false_iff.mp hold)
          (by simp [Pure.pure, Act.pure, htrace', htrace, hstart])
    · rw [Act.bind_of_error (Act.onError_of_error hcheck hclose)]
      exact .noContext hwindow hcut
        (by simp [htrace₃, htrace', htrace, hstart])
  · obtain ⟨s₂, hstop, htrace₂⟩ := stop_run h s₁
    rw [openContext, Act.bind_of_error (Act.onError_of_error hopen hstop)]
    exact .noWindow hcut (by simp [htrace₂, htrace, hstart])

theorem enter_entered (h : system.TakesDown) (v : Version) (s : Session σ) :
    Entered v s ((hidden system v).enter s).1
      ((hidden system v).enter s).2 := by
  have henter : (hidden system v).enter = system.perform .start >>=
      fun started => if !started then
        Act.fail (.context .noWindowSystem) else openContext system v :=
    rfl
  rw [henter]
  cases hr : (system .start s.devices).1 with
  | error fault =>
    rw [Act.bind_of_error (Window.System.perform_of_error hr)]
    exact .notStarted rfl rfl rfl
  | ok started =>
    rw [Act.bind_of_ok (Window.System.perform_of_ok hr)]
    cases started with
    | false => exact .notStarted rfl rfl rfl
    | true => exact openContext_entered h v rfl

theorem failure?_planned {window : Int} (h : window ≠ 0)
    {info : Window.ContextInfo} :
    ∀ e ∈ windowEvents v window ++ contextEvents window info,
      e.failure? = none := by
  intro e he
  simp only [windowEvents, contextEvents, List.mem_append, List.mem_map,
    List.mem_cons, List.not_mem_nil, or_false] at he
  obtain (⟨wish, -, rfl⟩ | rfl) | rfl | rfl := he
  · rfl
  · exact if_neg h
  · rfl
  · rfl

theorem failure?_closeEvents {window : Int} :
    ∀ e ∈ closeEvents window, e.failure? = none := by
  simp only [closeEvents, List.forall_mem_cons]
  exact ⟨rfl, rfl, by simp⟩

/-- All calls have succeeded, but the context is older than it is to be, by the
version that its code stands for. -/
def Outdated (v actual : Version) (es : List Window.Event) : Prop :=
  (∀ e ∈ es, e.failure? = none) ∧
    ∃ info : Window.ContextInfo, ⟨.createContext, .ok info⟩ ∈ es ∧
      StandsFor info.versionCode actual ∧ actual.lex < v.lex

/-- Calls that are cut short say nothing of the age of a context. -/
theorem not_outdated_of_cutShort {error : Error} {actual : Version}
    {planned made es : List Window.Event} (h : CutShort error planned made)
    (hes : made ⊆ es) : ¬ Outdated v actual es := by
  rintro ⟨hall, -⟩
  obtain ⟨e, he, hfailure⟩ := h.exists_failure
  cases (hall e (hes he)).symm.trans hfailure

theorem not_tooOld_of_cutShort {error : Error} {actual : Version}
    {planned made : List Window.Event} (h : CutShort error planned made) :
    (.error error : Except Error Int) ≠ .error (.contextTooOld actual v) := by
  rintro ⟨⟩
  exact h.ne_tooOld

/-- The calls that make a context say of its version what its code does. -/
theorem outdated_iff_of_made {window : Int} (hwindow : window ≠ 0)
    {info : Window.ContextInfo} {actual : Version}
    (hcode : StandsFor info.versionCode actual) {after : List Window.Event}
    (hafter : ∀ e ∈ after, e.failure? = none)
    (hother : ∀ e ∈ after, e.call ≠ .createContext) (other : Version) :
    Outdated v other (⟨.start, .ok true⟩ ::
        (windowEvents v window ++ (contextEvents window info ++ after))) ↔
      other = actual ∧ actual.lex < v.lex := by
  constructor
  · rintro ⟨-, info', hmem, hcode', hold⟩
    have hinfo : info' = info := by
      have hnot : (⟨.createContext, .ok info'⟩ : Window.Event) ∉ after :=
        fun hmem => hother _ hmem rfl
      simpa [windowEvents, contextEvents, hnot] using hmem
    rw [hinfo] at hcode'
    obtain rfl := hcode'.unique hcode
    exact ⟨rfl, hold⟩
  · rintro ⟨rfl, hold⟩
    refine ⟨?_, info, by simp [contextEvents], hcode, hold⟩
    rw [List.forall_mem_cons, ← List.append_assoc, List.forall_mem_append]
    exact ⟨rfl, failure?_planned hwindow, hafter⟩

/-- A context is refused as too old, and as which version, exactly when it is
of this version and older, after all calls have succeeded. -/
theorem Entered.tooOld_iff {s s' : Session σ} {r : Except Error Int}
    (h : Entered v s r s') :
    ∃ es, s'.trace = s.trace ++ es.map .window ∧
      ∀ actual, r = .error (.contextTooOld actual v) ↔
        Outdated v actual es := by
  cases h with
  | @notStarted e error s' hcall h htrace =>
    have hcut : CutShort error [e] [e] := .here rfl h
    exact ⟨_, htrace, fun _ => iff_of_false (not_tooOld_of_cutShort hcut)
      (not_outdated_of_cutShort hcut (List.Subset.refl _))⟩
  | noWindow h htrace =>
    exact ⟨_, htrace, fun _ => iff_of_false (not_tooOld_of_cutShort h)
      (not_outdated_of_cutShort h fun _ he => by simp [he])⟩
  | noContext hwindow h htrace =>
    exact ⟨_, htrace, fun _ => iff_of_false (not_tooOld_of_cutShort h)
      (not_outdated_of_cutShort h fun _ he => by simp [he])⟩
  | @tooOld window info actual s' hwindow hcode hold htrace =>
    refine ⟨_, htrace, fun other => ?_⟩
    rw [outdated_iff_of_made hwindow hcode failure?_closeEvents
      (by simp [closeEvents, stopped])]
    simp [hold, eq_comm]
  | @ready window info actual s' hwindow hcode hnew htrace =>
    rw [← List.append_nil (contextEvents window info)] at htrace
    refine ⟨_, htrace, fun other => iff_of_false (by rintro ⟨⟩) ?_⟩
    rw [outdated_iff_of_made hwindow hcode (by simp) (by simp)]
    exact fun hold => not_lt_of_ge hnew hold.2

/-- What becomes of something that is done inside a context: it is not even
begun if the context is not entered, and else all is taken down after it and it
comes to what it would have come to. -/
inductive Bracketed (system : Window.System σ) (v : Version)
    (body : Act (Session σ) α) (s : Session σ) :
    Except Error α → Session σ → Prop
  | refused {error : Error} {s' : Session σ}
      (henter : (hidden system v).enter s = (.error error, s'))
      (h : Entered v s (.error error) s') :
    Bracketed system v body s (.error error) s'
  | done {window : Int} {r : Except Error α} {s₁ s₂ s' : Session σ}
      (henter : (hidden system v).enter s = (.ok window, s₁))
      (h : Entered v s (.ok window) s₁) (hbody : body s₁ = (r, s₂))
      (htrace : s'.trace = s₂.trace ++ (closeEvents window).map .window) :
    Bracketed system v body s r s'

theorem within_run (h : system.TakesDown) (v : Version)
    (body : Act (Session σ) α) (s : Session σ) :
    Bracketed system v body s ((hidden system v).within body s).1
      ((hidden system v).within body s).2 := by
  have hentered := enter_entered h v s
  cases henter : (hidden system v).enter s with
  | mk r s₁ =>
  rw [henter] at hentered
  cases r with
  | error error =>
    rw [Context.within, Act.bind_of_error henter]
    exact .refused henter hentered
  | ok window =>
    rw [Context.within, Act.bind_of_ok henter]
    cases hbody : body s₁ with
    | mk r s₂ =>
    obtain ⟨s₃, hclose, htrace⟩ := closeWindow_run h window s₂
    have hleave : (hidden system v).leave window s₂ = (.ok (), s₃) := hclose
    simp only [Act.ensuring, hbody, hleave]
    exact .done henter hentered hbody htrace

/-- A context is made for the greater one of the version that is asked for and
the least version, unless that is asked for is not admissible. What is done
inside it is bracketed, and it is refused as too old exactly when it is. -/
theorem within_bracketed (h : system.TakesDown) (request : Version)
    (body : Act (Session σ) α) (s : Session σ) :
    ((∃ v, configure request = .ok v) ↔ Admissible request) ∧
    (¬ Admissible request →
      ∃ fault, configure request = .error (.context fault)) ∧
    ∀ v, configure request = .ok v →
      v.lex = max request.lex (⟨3, 0⟩ : Version).lex ∧
      Bracketed system v body s ((hidden system v).within body s).1
        ((hidden system v).within body s).2 ∧
      ∃ es, ((hidden system v).enter s).2.trace =
          s.trace ++ es.map .window ∧
        ∀ actual, ((hidden system v).enter s).1 =
            .error (.contextTooOld actual v) ↔ Outdated v actual es := by
  refine ⟨⟨?_, fun hv => ?_⟩, configure_of_not_admissible, fun v hv => ?_⟩
  · rintro ⟨v, hv⟩
    by_contra hnot
    obtain ⟨fault, herror⟩ := configure_of_not_admissible hnot
    cases hv.symm.trans herror
  · obtain ⟨v, hv, -⟩ := configure_of_admissible hv
    exact ⟨v, hv⟩
  · refine ⟨?_, within_run h v body s, (enter_entered h v s).tooOld_iff⟩
    by_cases hrequest : Admissible request
    · obtain ⟨v', hv', hlex⟩ := configure_of_admissible hrequest
      cases hv.symm.trans hv'
      exact hlex
    · obtain ⟨fault, herror⟩ := configure_of_not_admissible hrequest
      cases hv.symm.trans herror

/-- A window system whose contexts have a version code. -/
def reporting (code : Int) : Window.System Unit :=
  Window.Script.system { context := ⟨code, none⟩ }

/-- A context that is just too old is refused. In one that is just new enough
something is done, between the calls that set it up and those that take it
down. -/
theorem within_bracketed_reporting :
    let body : Act (Session Unit) Unit := Session.note "inside"
    let s : Session Unit := ⟨(), [], []⟩
    let older := hidden (reporting 299) ⟨3, 0⟩
    let newer := hidden (reporting 330) ⟨3, 3⟩
    (∀ code, (reporting code).TakesDown) ∧
    (configure ⟨2, 1⟩ = .ok ⟨3, 0⟩ ∧
      Bracketed (reporting 299) ⟨3, 0⟩ body s (older.within body s).1
        (older.within body s).2 ∧
      (older.within body s).1 = .error (.contextTooOld ⟨2, 9⟩ ⟨3, 0⟩) ∧
      ∃ es, (older.within body s).2.trace = es.map .window ∧
        Outdated ⟨3, 0⟩ ⟨2, 9⟩ es) ∧
    (configure ⟨3, 3⟩ = .ok ⟨3, 3⟩ ∧
      Bracketed (reporting 330) ⟨3, 3⟩ body s (newer.within body s).1
        (newer.within body s).2 ∧
      (newer.within body s).1 = .ok () ∧
      (newer.within body s).2.trace =
        (⟨.start, .ok true⟩ :: (windowEvents ⟨3, 3⟩ 7 ++
          contextEvents 7 ⟨330, none⟩)).map .window ++
        .note "inside" :: (closeEvents 7).map .window) := by
  intro body s older newer
  have hdown (code : Int) : (reporting code).TakesDown :=
    ⟨fun _ _ => rfl, fun _ => rfl⟩
  obtain ⟨-, holder, es, htrace, hold⟩ :=
    (within_bracketed (hdown 299) ⟨2, 1⟩ body s).2.2 ⟨3, 0⟩ rfl
  obtain ⟨-, hnewer, -⟩ :=
    (within_bracketed (hdown 330) ⟨3, 3⟩ body s).2.2 ⟨3, 3⟩ rfl
  exact ⟨hdown, ⟨rfl, holder, rfl, es, htrace, (hold ⟨2, 9⟩).mp rfl⟩,
    ⟨rfl, hnewer, rfl, rfl⟩⟩

end Context

end ShaderBindings
