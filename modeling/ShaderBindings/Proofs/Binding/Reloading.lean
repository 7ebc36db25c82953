import ShaderBindings.Arguments.Flag
import ShaderBindings.ModuleText
import ShaderBindings.Proofs.Binding.InStep
import ShaderBindings.Proofs.Binding.Memory
import ShaderBindings.Proofs.Plan.Identifiers
import ShaderBindings.Proofs.Text.Literal

/-!
# Binding — Reloading

A class has the texts of its stages from its generation, or it reads them from
files whenever it compiles. Nothing else is different between the two. Whatever
is done with their instances, they ask the same of a device as long as they get
the same answers, and the shader of each stage is passed the text of the stage
in one, and what its file says then in the other.
-/

namespace ShaderBindings.Binding

variable {σ τ : Type} {plan : Plan} {files : File.System}
variable {gl : GL.Device σ} {gl' : GL.Device τ}

/-! ## Operations -/

/-- What can be done with instances, by their names: an action, or a question
that has an answer. -/
inductive Operation
  | act (a : Action)
  /-- The location of a variable is asked for. -/
  | locate (name : String)
  | read (self name : String) (expected : Option Expected)
  /-- The handle of the program is asked for. -/
  | handle (self : String)

/-- What an operation gives back. -/
inductive Answer
  | nothing
  | number (n : Int)
  | value (stored : Stored)

namespace Operation

/-- What is done. -/
def run (gl : GL.Device σ) (plan : Plan) : Operation → Work σ Answer
  | act a => do
    a.act gl plan
    return .nothing
  | locate name => return .number (← getLocation plan name)
  | read self name expected =>
    return .value (← getParameter plan self name expected)
  | handle self => return .number (← shaderId plan self)

/-- The operation compiles the program, unless there is one. -/
def compiles : Operation → Bool
  | act (.use (.compile _)) | act (.use (.recompile _))
  | act (.use (.enter _)) => true
  | _ => false

/-- The files after the operation. -/
def filesAfter (files : File.System) : Operation → File.System
  | act (.use (.edit other)) => other
  | _ => files

end Operation

/-- What is seen of an operation: what came of it, what was asked, and what was
said in the log. -/
structure Seen where
  result : Except Error Answer
  trace : List Event
  log : List Log.Entry

/-- Operations one after the other, those that raise being no end. Gives what is
seen of each. -/
def seenOf (gl : GL.Device σ) (plan : Plan) :
    List Operation → σ → State → List Seen
  | [], _, _ => []
  | o :: rest, d, k =>
    let after := o.run gl plan ({ devices := d }, k)
    ⟨after.1, after.2.1.trace, after.2.1.log⟩ ::
      seenOf gl plan rest after.2.1.devices after.2.2

/-- Something is true of the files whenever an operation compiles. -/
def AtCompilations (holds : File.System → Prop) :
    File.System → List Operation → Prop
  | _, [] => True
  | files, o :: rest => (o.compiles = true → holds files) ∧
    AtCompilations holds (o.filesAfter files) rest

/-- What is seen of two classes side by side. Only an operation that compiles
passes texts of stages. As long as all answers are the same, so is what comes of
each operation. -/
def AllAlongside (stages : List Stage) :
    File.System → List Operation → List Seen → List Seen → Prop
  | files, o :: rest, x :: xs, y :: ys =>
    Alongside files
      (x.result = y.result ∧ x.log = y.log ∧
        AllAlongside stages (o.filesAfter files) rest xs ys)
      (if o.compiles then stages else []) x.trace y.trace
  | _, [], [], [] => True
  | _, _, _, _ => False

/-- What is seen in a view of single events. -/
def Seen.through (view : Event → Event) (x : Seen) : Seen :=
  { x with trace := x.trace.map view }

/-! ## One operation -/

section Stepping

variable (hfree : NameFree plan) (hreload : plan.options.reload = false)
  (hnodup : (plan.stages.map (·.id)).Nodup)

include hfree hreload hnodup

/-- An operation is in step, if stages can be read when it compiles. The files
are changed by no class. -/
theorem run_inStep (o : Operation)
    (hedit : ∀ other, o ≠ .act (.use (.edit other)))
    (hread : o.compiles = true → Readable files (plan.stages.map (·.stage))) :
    InStep gl gl' files (fun sources _ => Embedded plan sources)
      (if o.compiles then plan.stages.map (·.stage) else [])
      (o.run gl plan) (o.run gl' plan.reloading) := by
  cases o with
  | locate name => exact .bind (.getLocation name) fun _ => .pure _
  | read self name expected =>
    exact .bind (.getParameter self name expected) fun _ => .pure _
  | handle self => exact .bind (.shaderId self) fun _ => .pure _
  | act a =>
    cases a with
    | store self name value =>
      exact .bind (.setParameter self name value) fun _ => .pure _
    | orient self value =>
      exact .bind (.bind (.instanceOf self) fun i => .keep self _) fun _ =>
        .pure _
    | draw self => exact .bind (.useShader self) fun _ => .pure _
    | pass self => exact .bind (.passUniforms self) fun _ => .pure _
    | use u =>
      cases u with
      | create self => exact .bind (.keep self _) fun _ => .pure _
      | compile self | enter self =>
        exact .bind_quiet (.compile hfree hreload hnodup (hread rfl) self)
          fun _ => .pure _
      | recompile self =>
        exact .bind_quiet (.recompile hfree hreload hnodup (hread rfl) self)
          fun _ => .pure _
      | dispose self | leave self => exact .bind .dispose fun _ => .pure _
      | edit other => exact absurd rfl (hedit other)

omit hfree hreload hnodup in
theorem filesAfter_eq {o : Operation}
    (hedit : ∀ other, o ≠ .act (.use (.edit other))) :
    o.filesAfter files = files := by
  unfold Operation.filesAfter
  split
  · exact absurd rfl (hedit _)
  · rfl

/-- One operation, from states that are the same but for texts. -/
theorem run_alongside (o : Operation) (d : σ) (d' : τ) {k k' : State}
    (hk : Paired files (fun sources _ => Embedded plan sources) k k')
    (hread : o.compiles = true → Readable files (plan.stages.map (·.stage))) :
    let x := o.run gl plan ({ devices := d }, k)
    let y := o.run gl' plan.reloading ({ devices := d' }, k')
    gl.Plays d x.2.1.trace x.2.1.devices ∧
    gl'.Plays d' y.2.1.trace y.2.1.devices ∧
    Alongside files
      (x.1 = y.1 ∧ x.2.1.log = y.2.1.log ∧
        Paired (o.filesAfter files) (fun sources _ => Embedded plan sources)
          x.2.2 y.2.2)
      (if o.compiles then plan.stages.map (·.stage) else [])
      x.2.1.trace y.2.1.trace := by
  by_cases hedit : ∃ other, o = .act (.use (.edit other))
  · -- Files are changed in both at once, and nothing is asked.
    obtain ⟨other, rfl⟩ := hedit
    refine ⟨.done, .done, .done ⟨rfl, rfl, ?_, hk.texts, rfl⟩⟩
    show { k' with files := other } = _
    rw [hk.same]
    rfl
  · have hsame : ∀ other, o ≠ .act (.use (.edit other)) :=
      fun other h => hedit ⟨other, h⟩
    have hstep : InStep gl gl' files (fun sources _ => Embedded plan sources)
        (if o.compiles then plan.stages.map (·.stage) else [])
        (o.run gl plan) (o.run gl' plan.reloading) :=
      run_inStep hfree hreload hnodup o hsame hread
    refine ⟨hstep.records.plays ({ devices := d }, k),
      hstep.records'.plays ({ devices := d' }, k'), ?_⟩
    have halong := hstep.along ({ devices := d }, k) ({ devices := d' }, k')
      rfl hk
    refine halong.mono fun h => ⟨h.result, h.log, ?_⟩
    rw [filesAfter_eq hsame]
    exact h.paired

/-! ## Any number of operations -/

/-- The operations of two classes, on any devices. -/
theorem seenOf_allAlongside (gl : GL.Device σ) (gl' : GL.Device τ)
    (operations : List Operation) (d : σ) (d' : τ) {k k' : State}
    (hk : Paired files (fun sources _ => Embedded plan sources) k k')
    (hread : AtCompilations (Readable · (plan.stages.map (·.stage))) files
      operations) :
    AllAlongside (plan.stages.map (·.stage)) files operations
      (seenOf gl plan operations d k)
      (seenOf gl' plan.reloading operations d' k') := by
  induction operations generalizing files d d' k k' with
  | nil => trivial
  | cons o rest ih =>
    obtain ⟨hnow, hlater⟩ := hread
    obtain ⟨-, -, halong⟩ := run_alongside hfree hreload hnodup o d d' hk hnow
    exact halong.mono fun ⟨hresult, hlog, hk⟩ =>
      ⟨hresult, hlog, ih _ _ hk hlater⟩

/-- The operations of two classes, on one device that makes no difference
between their texts. Neither does what is seen, in a view that makes none. -/
theorem seenOf_map_eq (gl : GL.Device σ) (view : Event → Event)
    (operations : List Operation) (d : σ) {k k' : State}
    (hk : Paired files (fun sources _ => Embedded plan sources) k k')
    (hsame : AtCompilations (Indistinct gl view (plan.stages.map (·.stage)))
      files operations) :
    (seenOf gl plan operations d k).map (Seen.through view) =
      (seenOf gl plan.reloading operations d k').map (Seen.through view) := by
  induction operations generalizing files d k k' with
  | nil => rfl
  | cons o rest ih =>
    obtain ⟨hnow, hlater⟩ := hsame
    obtain ⟨hplays, hplays', halong⟩ :=
      run_alongside hfree hreload hnodup o d d hk fun h => (hnow h).readable
    have hstages : Indistinct gl view
        (if o.compiles then plan.stages.map (·.stage) else []) files := by
      cases h : o.compiles with
      | true => exact hnow h
      | false => exact List.forall_mem_nil _
    obtain ⟨htrace, hdevices, hresult, hlog, hk⟩ :=
      halong.map_eq hstages hplays hplays'
    simp only [seenOf, List.map_cons, Seen.through, htrace, hresult, hlog]
    rw [hdevices]
    exact congrArg _ (ih _ hk hlater)

end Stepping

/-! ## From the beginning -/

/-- The text of a stage is left out. -/
def withoutText : Event → Event
  | .gl ⟨.shaderSource shader _, r⟩ => .gl ⟨.shaderSource shader "", r⟩
  | e => e

/-- The device makes no difference between texts of stages. -/
def Indifferent (gl : GL.Device σ) : Prop :=
  ∀ shader text text',
    gl (.shaderSource shader text) = gl (.shaderSource shader text')

theorem ofSpec_reloading {spec : Spec} (h : Plan.ofSpec spec = .ok plan) :
    Plan.ofSpec spec.reloading = .ok plan.reloading := by
  cases htypes : Plan.resolve spec.uniforms with
  | error e => simp [Plan.ofSpec, htypes, Bind.bind, Except.bind] at h
  | ok types =>
    simp only [Plan.ofSpec, htypes, Bind.bind, Except.bind, Pure.pure,
      Except.pure, Except.ok.injEq] at h
    subst h
    simp only [Plan.ofSpec, Spec.reloading, htypes, Bind.bind, Except.bind]
    rfl

/-- New classes have the same but for the texts of their stages. -/
theorem paired_initial (hreload : plan.options.reload = false)
    (hnodup : (plan.stages.map (·.id)).Nodup)
    (documentation documentation' : Option String) (files : File.System) :
    Paired files (fun sources _ => Embedded plan sources)
      { shared := { Shared.initial plan with documentation }, files }
      { shared := { Shared.initial plan.reloading with
          documentation := documentation' }, files } where
  same := rfl
  texts := by
    intro s hs
    have hsources : (Shared.initial plan).sources =
        plan.stages.map fun s => (s.id, s.stage.text) := by
      simp [Shared.initial, hreload]
    show List.lookup s.id (Shared.initial plan).sources = some s.stage.text
    rw [hsources]
    refine Table.lookup_eq_some_of_mem ?_ (List.mem_map.mpr ⟨s, hs, rfl⟩)
    rwa [List.map_map]
  files := rfl

/-! ## What modules say -/

/-- The text of a stage stands in the module of a class that has it, and the
path in the module of a class that reads it, each as a literal. -/
structure Stands (plan : Plan) (s : PlannedStage) : Prop where
  text : ∃ literal, Text.ReadsAs literal s.stage.text ∧
    Item.line s!"_{s.id}_source = {literal}" ∈ ModuleText.classBody plan
  path : ∃ literal body, Text.ReadsAs literal s.stage.path ∧
    Item.suite "def _load_shaders() -> None" body ∈
      ModuleText.classBody plan.reloading ∧
    Item.line (s!"{plan.options.className}._{s.id}_source = " ++
      s!"Path({literal}).read_text()") ∈ body

theorem stands (hreload : plan.options.reload = false) {s : PlannedStage}
    (hs : s ∈ plan.stages) : Stands plan s where
  text := by
    refine ⟨_, Text.literal_readsAs s.stage.text, ?_⟩
    have hline : Item.line
        s!"_{s.id}_source = {Text.literal s.stage.text}" ∈
          ModuleText.sharedFields plan := by
      simp only [ModuleText.sharedFields, hreload, Bool.false_eq_true, if_false,
        List.mem_append, List.mem_map]
      exact .inl (.inl (.inl (.inl (.inr ⟨s, hs, rfl⟩))))
    simp only [ModuleText.classBody, List.mem_append, hline, true_or, or_true]
  path := by
    have hsuite : ∃ body, Item.suite "def _load_shaders() -> None" body ∈
          ModuleText.loadShaders plan.reloading ∧
        Item.line (s!"{plan.options.className}._{s.id}_source = " ++
          s!"Path({Text.literal s.stage.path}).read_text()") ∈ body :=
      ⟨_, .tail _ (.head _),
        List.mem_cons_of_mem _ (List.mem_map.mpr ⟨s, hs, rfl⟩)⟩
    obtain ⟨body, hbody, hline⟩ := hsuite
    refine ⟨_, body, Text.literal_readsAs s.stage.path, ?_, hline⟩
    have hreload' : plan.reloading.options.reload = true := rfl
    simp only [ModuleText.classBody, hreload', if_true, List.mem_append, hbody,
      true_or, or_true]

/-! ## Reading again -/

theorem AtCompilations.mono {P Q : File.System → Prop}
    {operations : List Operation} (h : AtCompilations P files operations)
    (himp : ∀ files, P files → Q files) :
    AtCompilations Q files operations := by
  induction operations generalizing files with
  | nil => trivial
  | cons o rest ih => exact ⟨fun hc => himp _ (h.1 hc), ih h.2⟩

theorem readText_of_readStage {origin : File.System} {s : Stage}
    (h : Arguments.readStage origin s.path s.kind = .ok (.stage s)) :
    origin.readText (.ofText s.path) = .ok s.text := by
  unfold Arguments.readStage at h
  cases htext : origin.readText (.ofText s.path) with
  | error e =>
    rw [htext] at h
    cases h
  | ok text =>
    rw [htext] at h
    injection h with h
    injection h with h
    rw [← h]

/-- What is read as it was before cannot be told from it. -/
theorem indistinct_of_readText_eq {origin : File.System} {stages : List Stage}
    (hread : ∀ s ∈ stages,
      Arguments.readStage origin s.path s.kind = .ok (.stage s))
    (hsame : ∀ s ∈ stages,
      files.readText (.ofText s.path) = origin.readText (.ofText s.path))
    (gl : GL.Device σ) (view : Event → Event) :
    Indistinct gl view stages files := by
  intro s hs
  refine ⟨s.text, ?_, fun shader => ⟨rfl, fun r => rfl⟩⟩
  rw [hsame s hs]
  exact readText_of_readStage (hread s hs)

theorem indistinct_of_indifferent {stages : List Stage} {gl : GL.Device σ}
    (hgl : Indifferent gl) (hread : Readable files stages) :
    Indistinct gl withoutText stages files := by
  intro s hs
  obtain ⟨text, htext⟩ := hread s hs
  exact ⟨text, htext, fun shader => ⟨hgl _ _ _, fun r => rfl⟩⟩

/-- A class with the texts of its stages, and one that reads them whenever it
compiles. The module of each says which, and whatever is done with them:

* If, whenever they compile, the files say what they said when the stages were
  read, all that is seen is the same, on any device.
* If the stages can be read at least, they ask the same up to the first answer
  that is different, but for texts: the shader of each stage is passed its text
  in one, and what its file says at that time in the other. On a device that
  makes no difference between texts, all but them is the same to the end. -/
theorem ofSpec_reloading_agrees {spec : Spec} {origin : File.System}
    (h : Plan.ofSpec spec = .ok plan) (hreload : spec.options.reload = false)
    (hread : ∀ s ∈ spec.stages,
      Arguments.readStage origin s.path s.kind = .ok (.stage s))
    (hfree : NameFree plan) :
    Plan.ofSpec spec.reloading = .ok plan.reloading ∧
    (∀ s ∈ plan.stages, Stands plan s) ∧
    ∀ operations files documentation documentation',
      let k : State :=
        { shared := { Shared.initial plan with documentation }, files }
      let k' : State :=
        { shared := { Shared.initial plan.reloading with
            documentation := documentation' }, files }
      (AtCompilations (fun now => ∀ s ∈ spec.stages,
          now.readText (.ofText s.path) = origin.readText (.ofText s.path))
        files operations →
        ∀ {σ : Type} (gl : GL.Device σ) (d : σ),
          seenOf gl plan operations d k =
            seenOf gl plan.reloading operations d k') ∧
      (AtCompilations (Readable · spec.stages) files operations →
        (∀ {σ τ : Type} (gl : GL.Device σ) (gl' : GL.Device τ) (d : σ) (d' : τ),
          AllAlongside spec.stages files operations
            (seenOf gl plan operations d k)
            (seenOf gl' plan.reloading operations d' k')) ∧
        ∀ {σ : Type} (gl : GL.Device σ) (d : σ), Indifferent gl →
          (seenOf gl plan operations d k).map (Seen.through withoutText) =
            (seenOf gl plan.reloading operations d k').map
              (Seen.through withoutText)) := by
  have hid := Plan.identified_of_ofSpec h
  have hembeds : plan.options.reload = false := by
    rw [(Plan.places_of_ofSpec h).options]
    exact hreload
  refine ⟨ofSpec_reloading h, fun s hs => stands hembeds hs, ?_⟩
  intro operations files documentation documentation' k k'
  have hk : Paired files (fun sources _ => Embedded plan sources) k k' :=
    paired_initial hembeds hid.stagesNodup documentation documentation' files
  rw [← hid.stages] at hread ⊢
  refine ⟨fun hsame σ gl d => ?_, fun hreadable => ⟨?_, ?_⟩⟩
  · have hindistinct := hsame.mono fun now hnow =>
      indistinct_of_readText_eq hread hnow gl id
    have hmap := seenOf_map_eq hfree hembeds hid.stagesNodup gl id operations d
      hk hindistinct
    have hthrough : Seen.through id = id := by
      funext x
      simp [Seen.through]
    simpa [hthrough] using hmap
  · intro σ τ gl gl' d d'
    exact seenOf_allAlongside hfree hembeds hid.stagesNodup gl gl' operations
      d d' hk hreadable
  · intro σ gl d hgl
    have hindistinct := hreadable.mono fun now hnow =>
      indistinct_of_indifferent hgl hnow
    exact seenOf_map_eq hfree hembeds hid.stagesNodup gl withoutText operations
      d hk hindistinct

/-- Two stages of one kind, the first of which changes. -/
theorem ofSpec_reloading_agrees_pair :
    let first : Stage := ⟨"a.vert", .vertex, "A"⟩
    let second : Stage := ⟨"b.vert", .vertex, "B"⟩
    let spec : Spec := ⟨{}, [first, second], [], []⟩
    let plan : Plan := ⟨{}, [], [], [⟨first, "vertex"⟩, ⟨second, "vertex_2"⟩]⟩
    let files : File.System :=
      { entries := [(["a.vert"], .file [0x41]), (["b.vert"], .file [0x42])] }
    let edited : File.System :=
      { entries := [(["a.vert"], .file [0x43]), (["b.vert"], .file [0x42])] }
    let again : List Operation :=
      [.act (.use (.compile "s")), .act (.use (.recompile "s"))]
    let editing : List Operation :=
      [.act (.use (.compile "s")), .act (.use (.edit edited)),
        .act (.use (.recompile "s"))]
    let gl := GL.Device.numbering (fun _ => false) []
    let k : State := { shared := Shared.initial plan, files }
    let k' : State := { shared := Shared.initial plan.reloading, files }
    Plan.ofSpec spec = .ok plan ∧ NameFree plan ∧
    (∀ s ∈ spec.stages,
      Arguments.readStage files s.path s.kind = .ok (.stage s)) ∧
    seenOf gl plan again 0 k = seenOf gl plan.reloading again 0 k' ∧
    AllAlongside spec.stages files editing (seenOf gl plan editing 0 k)
      (seenOf gl plan.reloading editing 0 k') ∧
    (seenOf gl plan.reloading editing 0 k').map (fun x => x.trace.filterMap
        fun | .gl ⟨.shaderSource shader text, _⟩ => some (shader, text)
            | _ => none) =
      [[(2, "A"), (3, "B")], [], [(5, "C"), (6, "B")]] := by
  intro first second spec plan files edited again editing gl k k'
  have hplan : Plan.ofSpec spec = .ok plan := rfl
  have hfree : NameFree plan := by
    intro m
    cases m <;> decide +kernel
  have hread : ∀ s ∈ spec.stages,
      Arguments.readStage files s.path s.kind = .ok (.stage s) := by
    decide +kernel
  have hnow : Readable files spec.stages :=
    fun s hs => ⟨s.text, readText_of_readStage (hread s hs)⟩
  have hlater : Readable edited spec.stages := by
    refine List.forall_mem_cons.mpr
      ⟨⟨"C", ?_⟩, List.forall_mem_singleton.mpr ⟨"B", ?_⟩⟩
    · decide +kernel
    · decide +kernel
  obtain ⟨-, -, hagrees⟩ := ofSpec_reloading_agrees hplan rfl hread hfree
  refine ⟨hplan, hfree, hread, ?_, ?_, ?_⟩
  · exact (hagrees again files none none).1
      ⟨fun _ _ _ => rfl, fun _ _ _ => rfl, trivial⟩ gl 0
  · refine ((hagrees editing files none none).2 ?_).1 gl gl 0 0
    exact ⟨fun _ => hnow, ⟨nofun, ⟨fun _ => hlater, trivial⟩⟩⟩
  · decide +kernel

end ShaderBindings.Binding
