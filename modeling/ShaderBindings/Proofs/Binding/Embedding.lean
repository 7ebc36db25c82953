import ShaderBindings.Proofs.Binding.Reloading
import ShaderBindings.Proofs.Binding.Shaders
import ShaderBindings.Proofs.ModuleText.Quoting

/-!
# Binding — Embedded stages

A class that has the texts of its stages from its generation passes just these
to its shaders: whatever is done with its instances, on any device and however
often it compiles, a shader that is passed a text has just been made for a
stage, the text is that of the stage, and the stages take turns in order. In the
text of its module, each of them is a literal on a line of its own.
-/

namespace ShaderBindings.Binding

open Listing (row)
open Text (literal)

variable {σ α β : Type} {plan : Plan} {gl : GL.Device σ}
variable {stages : List Stage} {es fs : List Event}

/-! ## What is passed -/

/-- No texts are passed but those of stages, of the first ones at least. A
shader is made for a stage, and passed the text of the stage first of all. -/
inductive Fed : List Stage → List Event → Prop
  | done {stages : List Stage} : Fed stages []
  | call {stages : List Stage} {call : GL.Call}
      {r : Except ExternalFault call.Reply} {es : List Event}
      (hcall : call.passesText = false) (h : Fed stages es) :
    Fed stages (.gl ⟨call, r⟩ :: es)
  | stage {s : Stage} {stages : List Stage} {shader : Int}
      {r : Except ExternalFault Unit} {es : List Event} (h : Fed stages es) :
    Fed (s :: stages)
      (.gl ⟨.createShader s.kind, .ok shader⟩ ::
        .gl ⟨.shaderSource shader s.text, r⟩ :: es)

namespace Fed

/-- Calls that pass no text, and others after them. -/
theorem append (h : Fed [] es) (h' : Fed stages fs) :
    Fed stages (es ++ fs) := by
  generalize hnone : ([] : List Stage) = none at h
  induction h with
  | done => exact h'
  | call hcall _ ih => exact .call hcall (ih hnone)
  | stage => cases hnone

theorem lift (h : Fed [] es) : Fed stages es := by
  simpa using h.append .done

/-- Calls, and others after them that pass no text. -/
theorem append_quiet (h : Fed stages es) (h' : Fed [] fs) :
    Fed stages (es ++ fs) := by
  induction h with
  | done => exact h'.lift
  | call hcall _ ih => exact .call hcall ih
  | stage _ ih => exact .stage ih

/-- What is asked in step with itself passes no text. -/
theorem of_alongside {files : File.System} {ends : Prop} {es' : List Event}
    (h : Alongside files ends [] es es') (hsame : es = es') : Fed [] es := by
  generalize hnone : ([] : List Stage) = none at h
  induction h with
  | done => exact .done
  | call hcall _ ih =>
    obtain ⟨hevent, hrest⟩ := List.cons.inj hsame
    cases hevent
    exact .call hcall (ih rfl hrest hnone)
  | stage => cases hnone

end Fed

/-! ## Acts that feed shaders -/

/-- A class that has the texts of its stages keeps them, and passes no others to
shaders. -/
structure Feeds (gl : GL.Device σ) (plan : Plan) (stages : List Stage)
    (x : Work σ α) : Prop where
  records : x.Records gl
  passes : ∀ p, Embedded plan p.2.shared.sources → Fed stages (x.said p)
  keeps : ∀ p, Embedded plan p.2.shared.sources →
    Embedded plan (x p).2.2.shared.sources

namespace Feeds

variable {x : Work σ α} {f : α → Work σ β}

theorem lift (h : Feeds gl plan [] x) : Feeds gl plan stages x :=
  ⟨h.records, fun p hp => (h.passes p hp).lift, h.keeps⟩

/-- An act that is in step with another without a text being passed. -/
theorem of_inStep {y : Work σ α}
    (h : ∀ files, InStep gl gl files (fun sources _ => Embedded plan sources) []
      x y) : Feeds gl plan [] x := by
  have hsame (p : Session σ × State) (hp : Embedded plan p.2.shared.sources) :
      Alongside p.2.files (Alike p.2.files
        (fun sources _ => Embedded plan sources) (x p) (y p)) []
        (x.said p) (y.said p) :=
    (h p.2.files).along p p rfl ⟨rfl, hp, rfl⟩
  -- on one device, both are answered alike to the end
  have hend (p : Session σ × State) (hp : Embedded plan p.2.shared.sources) :
      (x.said p).map id = (y.said p).map id ∧ _ ∧ Alike p.2.files
        (fun sources _ => Embedded plan sources) (x p) (y p) :=
    (hsame p hp).map_eq (List.forall_mem_nil _)
      ((h p.2.files).records.plays p) ((h p.2.files).records'.plays p)
  refine ⟨(h {}).records, fun p hp => .of_alongside (hsame p hp) ?_,
    fun p hp => (hend p hp).2.2.paired.texts⟩
  simpa using (hend p hp).1

theorem pure (a : α) : Feeds gl plan [] (Pure.pure a : Work σ α) :=
  of_inStep fun _ => .pure a

theorem fail (e : Error) : Feeds gl plan [] (Act.fail e : Work σ α) :=
  of_inStep fun _ => .fail e

theorem call {call : GL.Call} (h : call.passesText = false) :
    Feeds gl plan [] (Act.onFirst (gl.perform call) : Work σ call.Reply) :=
  of_inStep fun _ => .call h

theorem next (hf : ∀ a, Feeds gl plan stages (f a)) (r : Except Error α) :
    Feeds gl plan stages (Act.next f r) := by
  cases r with
  | ok a => exact hf a
  | error e => exact (fail e).lift

theorem bind_of_append {first second : List Stage}
    (happend : ∀ {es fs : List Event}, Fed first es → Fed second fs →
      Fed stages (es ++ fs))
    (hx : Feeds gl plan first x) (hf : ∀ a, Feeds gl plan second (f a)) :
    Feeds gl plan stages (x >>= f) where
  records := hx.records.bind fun a => (hf a).records
  passes := by
    intro p hp
    rw [hx.records.said_bind fun a => (hf a).records]
    exact happend (hx.passes p hp) ((next hf _).passes _ (hx.keeps p hp))
  keeps := by
    intro p hp
    rw [Act.bind_eq]
    exact (next hf _).keeps _ (hx.keeps p hp)

/-- Acts that pass no text, and others after them. -/
theorem bind (hx : Feeds gl plan [] x) (hf : ∀ a, Feeds gl plan stages (f a)) :
    Feeds gl plan stages (x >>= f) :=
  bind_of_append (fun h h' => h.append h') hx hf

/-- Acts, and others after them that pass no text. -/
theorem bind_quiet (hx : Feeds gl plan stages x)
    (hf : ∀ a, Feeds gl plan [] (f a)) : Feeds gl plan stages (x >>= f) :=
  bind_of_append (fun h h' => h.append_quiet h') hx hf

/-! ## Compiling -/

theorem passing {x : Work σ α} (h : Feeds gl plan stages x) (shader : Int)
    (text : String) (p : Session σ × State)
    (hp : Embedded plan p.2.shared.sources) :
    let y := Binding.passing gl shader text x
    ∃ r es, y.said p = .gl ⟨.shaderSource shader text, r⟩ :: es ∧
      Fed stages es ∧ Embedded plan (y p).2.2.shared.sources := by
  have hnext := next (fun _ : Unit => h)
    (Act.onFirst (gl.perform (.shaderSource shader text)) p).1
  have hp' : Embedded plan (Act.onFirst
      (gl.perform (.shaderSource shader text)) p).2.2.shared.sources := hp
  refine ⟨_, _, Act.Records.said_perform_bind (fun _ => h.records) p,
    hnext.passes _ hp', ?_⟩
  unfold Binding.passing
  rw [Act.bind_eq]
  exact hnext.keeps _ hp'

/-- The text of a stage is looked up before anything else is asked. -/
theorem sharedPassing {s : PlannedStage} {x : Work σ α} {shader : Int}
    (hs : s ∈ plan.stages) (h : Feeds gl plan stages x)
    {p : Session σ × State} (hp : Embedded plan p.2.shared.sources) :
    let y : Work σ α := shared >>= fun b =>
      Binding.passing gl shader ((b.sources.lookup s.id).getD "") x
    ∃ r es, y.said p = .gl ⟨.shaderSource shader s.stage.text, r⟩ :: es ∧
      Fed stages es ∧ Embedded plan (y p).2.2.shared.sources := by
  intro y
  have htext := congrArg (Option.getD · "") (hp s hs)
  have hrun : y p = Binding.passing gl shader s.stage.text x p :=
    congrArg (fun text => Binding.passing gl shader text x p) htext
  have hsaid :
      y.said p = (Binding.passing gl shader s.stage.text x).said p := by
    rw [Act.said, Act.said, hrun]
  rw [hsaid, hrun]
  exact h.passing shader s.stage.text p hp

/-- A shader is made for a stage, and is passed the text of the stage. -/
theorem feeding {s : PlannedStage} (hs : s ∈ plan.stages)
    {f : Int → Work σ α} (h : ∀ shader, Feeds gl plan stages (f shader)) :
    Feeds gl plan (s.stage :: stages) (Binding.feeding gl s f) := by
  have hrecords (shader : Int) :=
    records_sharedPassing (h shader).records shader s.id
  have hrun (p : Session σ × State) (hp : Embedded plan p.2.shared.sources) :
      Fed (s.stage :: stages) ((Binding.feeding gl s f).said p) ∧
        Embedded plan (Binding.feeding gl s f p).2.2.shared.sources := by
    unfold Binding.feeding
    rw [Act.Records.said_perform_bind hrecords, Act.bind_eq]
    -- the texts are as they were once the shader is made
    obtain ⟨q, hq⟩ : ∃ q, q = (Act.onFirst
        (gl.perform (.createShader s.stage.kind)) p).2 := ⟨_, rfl⟩
    have hq' : Embedded plan q.2.shared.sources := by
      rw [hq]
      exact hp
    cases hmade : (gl (.createShader s.stage.kind) p.1.devices).1 with
    | error fault =>
      rw [Act.perform_of_error hmade, ← hq]
      have hfail : Feeds gl plan [] (Act.fail (.external fault) : Work σ α) :=
        fail _
      exact ⟨.call rfl (hfail.passes q hq').lift, hfail.keeps q hq'⟩
    | ok shader =>
      rw [Act.perform_of_ok hmade, ← hq]
      obtain ⟨r, es, hsaid, hfed, hkeeps⟩ := (h shader).sharedPassing hs hq'
      refine ⟨?_, hkeeps⟩
      have hnext : ∀ g : Int → Work σ α,
          (Act.next g (.ok shader)).said q = (g shader).said q := fun _ => rfl
      rw [hnext, hsaid]
      exact .stage hfed
  exact ⟨.bind (.perform _) hrecords, fun p hp => (hrun p hp).1,
    fun p hp => (hrun p hp).2⟩

theorem attachStages (program : Int) (planned : List PlannedStage)
    (holdings : Holdings) (h : planned ⊆ plan.stages) :
    Feeds gl plan (planned.map (·.stage))
      (Binding.attachStages gl plan program holdings planned) := by
  induction planned generalizing holdings with
  | nil => exact pure []
  | cons s rest ih =>
    obtain ⟨hs, hrest⟩ := List.cons_subset.mp h
    unfold Binding.attachStages Binding.reach
    cases hreach : hindrance? plan .compileShader s!"_{s.id}_source"
        (holdsHandle (Method.handleVariable s) :: holdings) with
    | some e =>
      simp only [hreach, Act.fail_bind]
      have hquiet : Feeds gl plan [] (do
          let _ ← gl.perform (.createShader s.stage.kind)
          Act.fail e : Work σ (List Int)) :=
        bind (call rfl) fun _ => fail e
      exact hquiet.lift
    | none =>
      simp only [hreach, pure_bind]
      refine feeding hs fun shader => ?_
      refine bind (call rfl) fun _ => bind (call rfl) fun _ => ?_
      exact bind_quiet (ih _ hrest) fun _ => pure _

theorem compileReady :
    Feeds gl plan (plan.stages.map (·.stage))
      (Binding.compileReady gl plan) := by
  unfold Binding.compileReady
  refine bind (call rfl) fun program => ?_
  refine bind_quiet (attachStages program plan.stages _ (List.Subset.refl _))
    fun shaders => ?_
  refine bind (call rfl) fun _ => bind (call rfl) fun log => ?_
  refine bind (of_inStep fun _ => .write _ _) fun _ => ?_
  refine bind (of_inStep fun _ => .releaseStages program shaders) fun _ => ?_
  refine bind (of_inStep fun _ => .reach _ _ _) fun _ => ?_
  refine bind (of_inStep fun _ => .share fun _ _ _ => rfl) fun _ => ?_
  exact of_inStep fun _ => .bind
    (.resolveLocations (fun _ => .call rfl) _) fun _ =>
      .resolveLocations (fun _ => .call rfl) _

theorem compile (hreload : plan.options.reload = false) (self : String) :
    Feeds gl plan (plan.stages.map (·.stage))
      (Binding.compile gl plan self) := by
  have hcompile :
      Binding.compileShader gl plan = Binding.compileReady gl plan := by
    rw [compileShader_eq, hreload, if_neg Bool.false_ne_true]
  have hacquire : Feeds gl plan [] (do
      let _ ← References.acquire references : Work σ Unit) :=
    of_inStep fun _ => .bind .acquire fun _ => .pure _
  unfold Binding.compile
  rw [hcompile]
  refine bind (of_inStep fun _ => .reach _ _ _) fun _ => ?_
  refine bind (of_inStep fun _ => .seenProgram _ _) fun program => ?_
  by_cases h : program = 0
  · rw [if_pos h]
    exact bind_quiet compileReady fun _ => hacquire
  · rw [if_neg h]
    exact hacquire.lift

theorem recompile (hreload : plan.options.reload = false) (self : String) :
    Feeds gl plan (plan.stages.map (·.stage))
      (Binding.recompile gl plan self) := by
  unfold Binding.recompile
  refine bind (of_inStep fun _ => .reach _ _ _) fun _ => ?_
  refine bind (of_inStep fun _ => .seenProgram _ _) fun program => ?_
  refine bind (call rfl) fun _ => ?_
  exact bind (of_inStep fun _ => .forgetProgram _ _) fun _ =>
    compile hreload self

/-! ## Operations -/

theorem edit (files : File.System) :
    Feeds gl plan []
      (Act.onSecond (Act.modify fun b => { b with files }) : Work σ Unit) where
  records := .silent (fun _ => rfl) fun _ => rfl
  passes := by
    intro p _
    rw [Act.said_eq (List.append_nil _).symm]
    exact .done
  keeps := fun _ hp => hp

/-- Whatever is done, it passes the texts of the stages if it compiles, and none
otherwise. -/
theorem run (hreload : plan.options.reload = false) (o : Operation) :
    Feeds gl plan (if o.compiles then plan.stages.map (·.stage) else [])
      (o.run gl plan) := by
  cases o with
  | locate name =>
    exact of_inStep fun _ => .bind (.getLocation name) fun _ => .pure _
  | read self name expected =>
    exact of_inStep fun _ => .bind (.getParameter self name expected)
      fun _ => .pure _
  | handle self =>
    exact of_inStep fun _ => .bind (.shaderId self) fun _ => .pure _
  | act a =>
    cases a with
    | store self name value =>
      exact of_inStep fun _ => .bind (.setParameter self name value)
        fun _ => .pure _
    | orient self value =>
      exact of_inStep fun _ => .bind (.bind (.instanceOf self) fun i =>
        .keep self _) fun _ => .pure _
    | draw self =>
      exact of_inStep fun _ => .bind (.useShader self) fun _ => .pure _
    | pass self =>
      exact of_inStep fun _ => .bind (.passUniforms self) fun _ => .pure _
    | use u =>
      cases u with
      | create self =>
        exact of_inStep fun _ => .bind (.keep self _) fun _ => .pure _
      | compile self | enter self =>
        exact bind_quiet (compile hreload self) fun _ => pure _
      | recompile self =>
        exact bind_quiet (recompile hreload self) fun _ => pure _
      | dispose self | leave self =>
        exact of_inStep fun _ => .bind .dispose fun _ => .pure _
      | edit other => exact bind (edit other) fun _ => pure _

end Feeds

/-- Of all operations, one after the other, those that compile pass the texts of
the stages. -/
theorem seenOf_fed (hreload : plan.options.reload = false)
    (gl : GL.Device σ) (operations : List Operation) (d : σ) {k : State}
    (hk : Embedded plan k.shared.sources) :
    ∀ x ∈ operations.zip (seenOf gl plan operations d k),
      Fed (if x.1.compiles then plan.stages.map (·.stage) else [])
        x.2.trace := by
  induction operations generalizing d k with
  | nil => simp
  | cons o rest ih =>
    have hrun : Feeds gl plan _ (o.run gl plan) := Feeds.run hreload o
    have hfed := hrun.passes ({ devices := d }, k) hk
    have htrace := hrun.records.trace ({ devices := d }, k)
    rw [List.nil_append] at htrace
    rw [← htrace] at hfed
    rw [seenOf, List.zip_cons_cons, List.forall_mem_cons]
    exact ⟨hfed, ih _ (hrun.keeps ({ devices := d }, k) hk)⟩

/-! ## A compilation that succeeds -/

/-- The text that a call passes to a shader. -/
def passedText? (e : GL.Event) : Option String :=
  match e.call with
  | .shaderSource _ text => some text
  | _ => none

theorem passedText?_attachEvents (b : Shared) (program : Int)
    (planned : List PlannedStage) {shaders : List Int}
    (h : shaders.length = planned.length) :
    (attachEvents b program planned shaders).filterMap passedText? =
      planned.map (sourceOf b) := by
  induction planned generalizing shaders with
  | nil => simp [attachEvents]
  | cons s rest ih =>
    cases shaders with
    | nil => cases h
    | cons shader shaders =>
      have hrest := ih (Nat.succ.inj h)
      rw [attachEvents] at hrest ⊢
      rw [List.zipWith_cons_cons, List.flatten_cons, List.filterMap_append,
        hrest]
      rfl

theorem passedText?_events {a : Answers} (h : a.Fit plan) (b : Shared) :
    (a.events plan b).filterMap passedText? =
      plan.stages.map (sourceOf b) := by
  rw [a.filterMap_events rfl rfl
    (filterMap_releaseStage (fun _ => rfl) fun _ => rfl)
    (filterMap_lookups (fun _ _ => rfl) fun _ _ => rfl),
    passedText?_attachEvents b a.program plan.stages h.shaders]
  rfl

/-- On a device that never fails, a class that is found by its name passes the
texts of all stages. -/
theorem compileShader_passes (hreload : plan.options.reload = false)
    (hgl : ∀ call, gl.Answers call) (hname : Named plan) {k : State}
    (hk : Embedded plan k.shared.sources) :
    (compileShader gl plan).Makes gl k fun es r _ => r = .ok () ∧
      es.filterMap passedText? = plan.stages.map (·.stage.text) := by
  have hready := ready_of_embedded hreload k
  refine (compileShader_makes hgl hname k).mono ?_
  intro es r k' h
  cases h with
  | notReady h => simp [hready] at h
  | answered a h hfit =>
    rw [hready, passedText?_events hfit]
    refine ⟨rfl, List.map_congr_left fun s hs => ?_⟩
    rw [sourceOf, hk s hs]
    rfl

/-! ## From the files to the shaders -/

/-- A literal tells its text. So a module has the texts of its stages on lines
of their own, and its class passes to the shaders what was read of their
files. -/
theorem ofSpec_embeds :
    (∀ text, ModuleText.Quotes (literal text) text) ∧
    ∀ {spec : Spec} {plan : Plan} {origin : File.System},
      Plan.ofSpec spec = .ok plan → spec.options.reload = false →
      (∀ s ∈ spec.stages,
        Arguments.readStage origin s.path s.kind = .ok (.stage s)) →
      (∀ s ∈ plan.stages,
        origin.readText (.ofText s.stage.path) = .ok s.stage.text ∧
        ∀ version, ModuleText.IsLine (ModuleText.ofPlan version plan).toList
          (row (1, "_" ++ s.id ++ "_source = " ++ literal s.stage.text))) ∧
      ∀ documentation files,
        let k : State :=
          { shared := { Shared.initial plan with documentation }, files }
        (∀ {σ : Type} (gl : GL.Device σ) (d : σ) (operations : List Operation),
          ∀ x ∈ operations.zip (seenOf gl plan operations d k),
            Fed (if x.1.compiles then spec.stages else []) x.2.trace) ∧
        ∀ {σ : Type} (gl : GL.Device σ), (∀ call, gl.Answers call) →
          Named plan → (compileShader gl plan).Makes gl k fun es r _ =>
            r = .ok () ∧
              es.filterMap passedText? = spec.stages.map (·.text) := by
  refine ⟨ModuleText.quotes_literal, ?_⟩
  intro spec plan origin h hreload hread
  have hid := Plan.identified_of_ofSpec h
  have hembeds : plan.options.reload = false := by
    rw [(Plan.places_of_ofSpec h).options]
    exact hreload
  have hplain : ∀ s ∈ plan.stages, IsPlain s.id := fun s hs =>
    Plan.isPlain_of_stems hid.stagesDerived s.id (List.mem_map_of_mem hs)
  rw [← hid.stages] at hread ⊢
  refine ⟨fun s hs => ⟨?_, fun version => ?_⟩, fun documentation files => ?_⟩
  · exact readText_of_readStage (hread s.stage (List.mem_map_of_mem hs))
  · exact ModuleText.isLine_source hembeds hs (hplain s hs) version
  · intro k
    have hk : Embedded plan k.shared.sources :=
      (paired_initial hembeds hid.stagesNodup documentation documentation
        files).texts
    refine ⟨fun gl d operations => seenOf_fed hembeds gl operations d hk,
      fun gl hgl hname => ?_⟩
    simpa [List.map_map, Function.comp_def] using
      compileShader_passes hembeds hgl hname hk

/-- A stage with a quote, a backslash, a line feed and a bell. -/
theorem ofSpec_embeds_escaped :
    let stage : Stage := ⟨"a.vert", .vertex, "'\\\n\x07"⟩
    let spec : Spec := ⟨{}, [stage], [], []⟩
    let plan : Plan := ⟨{}, [], [], [⟨stage, "vertex"⟩]⟩
    let origin : File.System :=
      { entries := [(["a.vert"], .file [0x27, 0x5c, 0x0a, 0x07])] }
    let operations : List Operation :=
      [.act (.use (.compile "s")), .act (.use (.recompile "s"))]
    let gl := GL.Device.numbering (fun _ => false) []
    let k : State := { shared := Shared.initial plan }
    Plan.ofSpec spec = .ok plan ∧
    (∀ s ∈ spec.stages,
      Arguments.readStage origin s.path s.kind = .ok (.stage s)) ∧
    ModuleText.IsLine (ModuleText.ofPlan "" plan).toList
      "    _vertex_source = \"'\\\\\\n\\x07\"" ∧
    (∀ x ∈ operations.zip (seenOf gl plan operations 0 k),
      Fed [stage] x.2.trace) ∧
    (∀ call, gl.Answers call) ∧ Named plan ∧
    (compileShader gl plan).Makes gl k fun es r _ =>
      r = .ok () ∧ es.filterMap passedText? = ["'\\\n\x07"] := by
  intro stage spec plan origin operations gl k
  have hplan : Plan.ofSpec spec = .ok plan := rfl
  have hread : ∀ s ∈ spec.stages,
      Arguments.readStage origin s.path s.kind = .ok (.stage s) := by
    decide +kernel
  have hgl (call : GL.Call) : gl.Answers call :=
    GL.Device.numbering_answers rfl
  have hname : Named plan := by
    intro m
    cases m <;> decide +kernel
  obtain ⟨hlines, hacts⟩ := ofSpec_embeds.2 hplan rfl hread
  refine ⟨hplan, hread, ?_, ?_, hgl, hname, (hacts none {}).2 gl hgl hname⟩
  · have hline := (hlines ⟨stage, "vertex"⟩ List.mem_cons_self).2 ""
    have hrow : row (1, "_" ++ "vertex" ++ "_source = " ++ literal stage.text) =
        "    _vertex_source = \"'\\\\\\n\\x07\"" := by
      decide +kernel
    rwa [hrow] at hline
  · intro x hx
    have hfed := (hacts none {}).1 gl 0 operations x hx
    split at hfed
    · exact hfed
    · exact hfed.lift

end ShaderBindings.Binding
