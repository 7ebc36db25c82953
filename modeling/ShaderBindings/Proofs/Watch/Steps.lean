import ShaderBindings.Proofs.Calls
import ShaderBindings.Watch

/-!
# Watching — Steps

A watcher as a system of steps, between any two of which a stage file may
change. The steps are pieces of what a watcher does: from the start to the first
sleep, and from the end of a sleep to the next one, it takes them one by one.
The observer is told of a change only once it has been started.
-/

namespace ShaderBindings.Watch

open File

variable {σ : Type} {devices : Command.Devices σ} {time : String}
variable {args : List String} {interval : Number.Binary .double}

/-! ## Phases -/

/-- Where a watcher is. Until they are watched, the paths of the stages that
were read at the start are kept. -/
inductive Phase
  | parsing
  | reading (unwatched : Option (List Path))
  | generating (unwatched : Option (List Path))
      (read : Except Error Arguments)
  | preparing (paths : List Path)
  | starting
  | sleeping
  | testing
  | clearing
  | ended

/-- Generates the module from what was read, and logs what came of it. -/
def regenerate (devices : Command.Devices σ) (time : String)
    (read : Except Error Arguments) : Command.Work σ Unit := do
  let result ← Act.attempt do
    Command.generate devices (← Act.ofExcept read)
  match result with
  | .ok path =>
    Act.onFirst (Session.info s!"[{time}] Rebuilt {path.text}")
  | .error e =>
    if Command.isReported e then
      Act.onFirst (Session.error s!"[{time}] Rebuild failed: {e.message}")
    else Act.fail e

/-- Prepares an observer for stage files. -/
def prepare (paths : List Path) : Work σ Unit := do
  let ((_, fs), _) ← Act.get
  let handler ← Act.ofExcept (Handler.ofPaths fs paths)
  note fun w => { w with handler }
  let directories ← Act.ofExcept (directories fs paths)
  Act.each (fun d => observe (.schedule d)) directories

/-- Starts the observer. -/
def startObserver : Work σ Unit := do
  observe .start
  Act.onFirst (Act.onFirst (Session.info
    "Watching for changes (press Ctrl+C to exit)..."))

/-- What is done in a phase. Gives the next phase. -/
def Phase.act (devices : Command.Devices σ) (time : String)
    (args : List String) (interval : Number.Binary .double) :
    Phase → Work σ Phase
  | parsing => do
    let arguments ← Act.onFirst (Command.readArguments args)
    if arguments.stages.isEmpty then
      Act.onFirst (Act.onFirst (Session.error "No shader stages were given"))
      return .ended
    return .reading (some arguments.stagePaths)
  | reading unwatched => do
    let read ← Act.onFirst (Act.attempt (Command.readArguments args))
    return .generating unwatched read
  | generating unwatched read => do
    Act.onFirst (regenerate devices time read)
    match unwatched with
    | some paths => return .preparing paths
    | none => return .sleeping
  | preparing paths => do
    prepare paths
    return .starting
  | starting => do
    startObserver
    return .sleeping
  | sleeping => do
    let (_, w) ← Act.get
    if w.observerAlive then
      note fun w => { w with sleeps := w.sleeps ++ [interval] }
      return .testing
    return .ended
  | testing => do
    let (_, w) ← Act.get
    return if w.handler.needsRebuild then .clearing else .sleeping
  | clearing => do
    note fun w => { w with handler.needsRebuild := false }
    return .reading none
  | ended => return .ended

/-! ## Steps -/

/-- A watcher, in a phase. -/
structure Machine (σ : Type) where
  phase : Phase
  state : (Session σ × System) × State

/-- The watcher with other files. -/
def Machine.withFiles (m : Machine σ) (files : System) : Machine σ :=
  { m with state := ((m.state.1.1, files), m.state.2) }

/-- The watcher with other files, told of an event. -/
def Machine.told (m : Machine σ) (files : System) (event : FileEvent) :
    Machine σ :=
  { m with state := (tell event (m.withFiles files).state).2 }

/-- What a step does. -/
inductive Label
  /-- The stage files are read, to generate the module from them. -/
  | read
  /-- The observer is started. -/
  | started
  /-- The watcher does something else. -/
  | done
  /-- A stage file changes. -/
  | changed
  deriving DecidableEq, Repr

/-- What the step of a phase does. -/
def Phase.label : Phase → Label
  | reading _ => .read
  | starting => .started
  | _ => .done

/-- The observer has been started. -/
def State.Started (w : State) : Prop :=
  .start ∈ w.observations

/-- The event tells of a change of a stage file. -/
def Tells (fs : System) (w : State) (event : FileEvent) : Prop :=
  ∃ path real, event.changed? = some path ∧
    Handler.reported fs path = .ok (some real) ∧ real ∈ w.handler.stageFiles

/-- One step of a watcher, or of someone else who changes a stage file. -/
inductive Step (devices : Command.Devices σ) (time : String)
    (args : List String) (interval : Number.Binary .double) :
    Machine σ → Label → Machine σ → Prop
  | acted {m : Machine σ} {phase : Phase} {x : (Session σ × System) × State}
      (h : m.phase.act devices time args interval m.state = (.ok phase, x)) :
    Step devices time args interval m m.phase.label ⟨phase, x⟩
  | raised {m : Machine σ} {e : Error} {x : (Session σ × System) × State}
      (h : m.phase.act devices time args interval m.state = (.error e, x)) :
    Step devices time args interval m .done ⟨.ended, x⟩
  | unseen {m : Machine σ} {files : System} (h : ¬ m.state.2.Started) :
    Step devices time args interval m .changed (m.withFiles files)
  | seen {m : Machine σ} {files : System} {event : FileEvent}
      (h : m.state.2.Started) (htells : Tells files m.state.2 event) :
    Step devices time args interval m .changed (m.told files event)

/-- Any number of steps. What they do is told from the last one back. -/
inductive Steps (devices : Command.Devices σ) (time : String)
    (args : List String) (interval : Number.Binary .double) (m : Machine σ) :
    List Label → Machine σ → Prop
  | none : Steps devices time args interval m [] m
  | next {history : List Label} {label : Label} {m' m'' : Machine σ}
      (h : Steps devices time args interval m history m')
      (hs : Step devices time args interval m' label m'') :
    Steps devices time args interval m (label :: history) m''

/-- The next step of the watcher itself. -/
def Machine.advance (devices : Command.Devices σ) (time : String)
    (args : List String) (interval : Number.Binary .double) (m : Machine σ) :
    Label × Machine σ :=
  match m.phase.act devices time args interval m.state with
  | (.ok phase, x) => (m.phase.label, ⟨phase, x⟩)
  | (.error _, x) => (.done, ⟨.ended, x⟩)

theorem Step.advance (m : Machine σ) :
    Step devices time args interval m
      (m.advance devices time args interval).1
      (m.advance devices time args interval).2 := by
  unfold Machine.advance
  cases h : m.phase.act devices time args interval m.state with
  | mk r x =>
    cases r with
    | ok phase => exact .acted h
    | error e => exact .raised h

/-! ## The watcher takes these steps -/

theorem rebuild_eq (devices : Command.Devices σ) (time : String)
    (args : List String) : rebuild devices time args =
      Act.attempt (Command.readArguments args) >>=
        regenerate devices time := by
  funext s
  unfold rebuild regenerate
  simp only [Bind.bind, Act.bind, Act.attempt]
  cases Command.readArguments args s with
  | mk r s' => cases r <;> rfl

theorem observePaths_eq (paths : List Path) :
    (observePaths paths : Work σ Unit) =
      prepare paths >>= fun _ => startObserver := by
  unfold observePaths prepare startObserver
  simp only [Act.bind_assoc]

section Taking

variable {x y z : (Session σ × System) × State}

/-- A rebuild takes two steps. -/
theorem Steps.rebuild {m : Machine σ} {history : List Label}
    {unwatched : Option (List Path)}
    (h : Steps devices time args interval m history ⟨.reading unwatched, x⟩)
    (hrun : Act.onFirst (Watch.rebuild devices time args) x = (.ok (), y)) :
    Steps devices time args interval m (.done :: .read :: history)
      ⟨unwatched.elim .sleeping .preparing, y⟩ := by
  rw [rebuild_eq, Act.onFirst_bind] at hrun
  obtain ⟨read, x', hread, hgenerate⟩ := Act.of_bind_ok hrun
  have hreading : Step devices time args interval ⟨.reading unwatched, x⟩ .read
      ⟨.generating unwatched read, x'⟩ := by
    refine .acted (m := ⟨.reading unwatched, x⟩) ?_
    simp only [Phase.act, Bind.bind, Act.bind, hread]
    rfl
  have hgenerating : Step devices time args interval
      ⟨.generating unwatched read, x'⟩ .done
      ⟨unwatched.elim .sleeping .preparing, y⟩ := by
    refine .acted (m := ⟨.generating unwatched read, x'⟩) ?_
    simp only [Phase.act, Bind.bind, Act.bind, hgenerate]
    cases unwatched <;> rfl
  exact (h.next hreading).next hgenerating

/-- From the start to the first sleep. -/
theorem begin_steps
    (h : begin devices time args x = (.ok true, y)) :
    Steps devices time args interval ⟨.parsing, x⟩
      [.started, .done, .done, .read, .done] ⟨.sleeping, y⟩ := by
  unfold begin at h
  obtain ⟨arguments, x₁, hparse, h⟩ := Act.of_bind_ok h
  cases hstages : arguments.stages.isEmpty with
  | true =>
    simp only [hstages, if_true] at h
    obtain ⟨_, _, -, h⟩ := Act.of_bind_ok h
    cases h
  | false =>
    simp only [hstages, Bool.false_eq_true, if_false, observePaths_eq,
      Act.bind_assoc] at h
    obtain ⟨_, x₂, hrebuild, h⟩ := Act.of_bind_ok h
    obtain ⟨_, x₃, hprepare, h⟩ := Act.of_bind_ok h
    obtain ⟨_, x₄, hstart, h⟩ := Act.of_bind_ok h
    cases h
    have hparsing : Step devices time args interval ⟨.parsing, x⟩ .done
        ⟨.reading (some arguments.stagePaths), x₁⟩ := by
      refine .acted (m := ⟨.parsing, x⟩) ?_
      simp only [Phase.act, Bind.bind, Act.bind, hparse, hstages]
      rfl
    have hpreparing : Step devices time args interval
        ⟨.preparing arguments.stagePaths, x₂⟩ .done ⟨.starting, x₃⟩ := by
      refine .acted (m := ⟨.preparing arguments.stagePaths, x₂⟩) ?_
      simp only [Phase.act, Bind.bind, Act.bind, hprepare]
      rfl
    have hstarting : Step devices time args interval ⟨.starting, x₃⟩ .started
        ⟨.sleeping, y⟩ := by
      refine .acted (m := ⟨.starting, x₃⟩) ?_
      simp only [Phase.act, Bind.bind, Act.bind, hstart]
      rfl
    have hread := (Steps.none.next hparsing).rebuild hrebuild
    exact (hread.next hpreparing).next hstarting

/-- From the end of a sleep to the next one. -/
theorem rebuildIfNeeded_steps
    (h : rebuildIfNeeded devices time args x = (.ok (), y)) :
    ∃ history, Steps devices time args interval ⟨.testing, x⟩ history
      ⟨.sleeping, y⟩ := by
  obtain ⟨s, w⟩ := x
  have htesting : Step devices time args interval ⟨.testing, s, w⟩ .done
      ⟨if w.handler.needsRebuild then .clearing else .sleeping, s, w⟩ :=
    .acted (m := ⟨.testing, s, w⟩) rfl
  unfold rebuildIfNeeded at h
  obtain ⟨_, _, ⟨⟩, h⟩ := Act.of_bind_ok h
  cases hneeds : w.handler.needsRebuild with
  | false =>
    simp only [hneeds, Bool.false_eq_true, if_false] at h htesting
    cases h
    exact ⟨_, Steps.none.next htesting⟩
  | true =>
    simp only [hneeds, if_true] at h htesting
    obtain ⟨_, _, ⟨⟩, hrebuild⟩ := Act.of_bind_ok h
    have hclearing : Step devices time args interval ⟨.clearing, s, w⟩ .done
        ⟨.reading none, s, { w with handler.needsRebuild := false }⟩ :=
      .acted (m := ⟨.clearing, s, w⟩) rfl
    exact ⟨_, ((Steps.none.next htesting).next hclearing).rebuild hrebuild⟩

/-- A change that is seen is what happens while the watcher sleeps: the files
change, and an event is told. -/
theorem Step.of_happen {f : System → Except Error System} {event : FileEvent}
    {s : Session σ} {fs fs' : System} {w : State} {phase : Phase}
    (hf : f fs = .ok fs') (hstarted : w.Started) (htells : Tells fs' w event)
    (h : Act.each happen [.change f, .event event] ((s, fs), w) = (.ok (), y)) :
    Step devices time args interval ⟨phase, (s, fs), w⟩ .changed
      ⟨phase, y⟩ := by
  have hchange : happen (.change f) ((s, fs), w) = (.ok (), ((s, fs'), w)) := by
    simp [happen, Command.changeFiles, Act.onFirst, Bind.bind, Act.bind,
      Act.get, hf, Act.ofExcept, Act.pure, Act.onSecond, Act.set]
  obtain ⟨_, _, hfirst, h⟩ := Act.of_bind_ok h
  cases hchange.symm.trans hfirst
  obtain ⟨_, _, htold, h⟩ := Act.of_bind_ok h
  cases h
  have hy : y = (tell event ((s, fs'), w)).2 := (congrArg Prod.snd htold).symm
  rw [hy]
  exact .seen (m := ⟨phase, (s, fs), w⟩) hstarted htells

end Taking

end ShaderBindings.Watch
