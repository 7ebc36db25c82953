import ShaderBindings.Binding.Lifetime
import ShaderBindings.Proofs.Calls
import ShaderBindings.Proofs.Handles

/-!
# Binding — Compilation

What compiling the shared program asks of a device that never fails, and what is
shared afterwards. Stages that are read from files may keep it from beginning.
-/

namespace ShaderBindings.Binding

variable {σ K α : Type} {plan : Plan} {k : State}

/-! ## The name of the class -/

/-- The name of the class is none of the names that its methods bind. -/
def NameFree (plan : Plan) : Prop :=
  ∀ m : Method, knownName plan ∉ m.parameters ∧
    knownName plan ∉ m.ownVariables plan

/-- Every method finds the class by its name. -/
def Named (plan : Plan) : Prop :=
  ∀ m : Method, m.meaning plan = .theClass

/-- No method finds the class by its name, which is private to it. -/
def Unnamed (plan : Plan) (name : String) : Prop :=
  ∀ m : Method, m.meaning plan = .undefined name

theorem Named.not_unnamed (h : Named plan) {name : String} :
    ¬ Unnamed plan name := by
  intro h'
  have hmeaning := (h .compile).symm.trans (h' .compile)
  cases hmeaning

/-- A name that no method binds is that of the class in all methods or in none,
depending on whether it is private. -/
theorem NameFree.named_or_unnamed (h : NameFree plan) :
    Named plan ∨ ∃ name, Unnamed plan name := by
  cases hprivate : privateName? plan.options.className with
  | none =>
    refine .inl fun m => ?_
    obtain ⟨hparameters, hvariables⟩ := h m
    simp [Method.meaning, hprivate, hparameters, hvariables]
  | some name => exact .inr ⟨name, fun m => by simp [Method.meaning, hprivate]⟩

theorem reach_of_named (h : Named plan) (m : Method) (field : String)
    (holdings : Holdings) : (reach plan m field holdings : Work σ Unit) =
      pure () := by
  simp [reach, hindrance?, h m]

theorem reach_of_unnamed {name : String} (h : Unnamed plan name) (m : Method)
    (field : String) (holdings : Holdings) :
    (reach plan m field holdings : Work σ Unit) =
      Act.fail (.undefinedName name) := by
  simp [reach, hindrance?, h m]

/-! ## Reading the stages -/

/-- The texts of stages after they were read from files, and what came of it. -/
def loaded (files : File.System) : List PlannedStage →
    List (String × String) → Except Error Unit × List (String × String)
  | [], sources => (.ok (), sources)
  | s :: rest, sources =>
    match files.readText (.ofText s.stage.path) with
    | .ok text => loaded files rest (Table.insert s.id text sources)
    | .error e => (.error e, sources)

/-- The state with other texts of stages. -/
def State.withSources (k : State) (sources : List (String × String)) : State :=
  { k with shared := { k.shared with sources } }

theorem loadStages_makes (gl : GL.Device σ) (stages : List PlannedStage)
    (k : State) :
    (loadStages stages : Work σ Unit).Makes gl k fun es r k' => es = [] ∧
      r = (loaded k.files stages k.shared.sources).1 ∧
      k' = k.withSources (loaded k.files stages k.shared.sources).2 := by
  induction stages generalizing k with
  | nil => exact .pure ⟨rfl, rfl, rfl⟩
  | cons s rest ih =>
    unfold loadStages loaded
    refine .get_bind fun _ => ?_
    cases h : k.files.readText (.ofText s.stage.path) with
    | error e =>
      simp only [h, Act.ofExcept_error, Act.fail_bind]
      exact .fail ⟨rfl, rfl, rfl⟩
    | ok text =>
      simp only [h, Act.ofExcept_ok, pure_bind]
      exact .modify_bind (ih (k.withSources _))

/-! ## Attaching and releasing stages -/

/-- Looking at what is shared is no call. -/
theorem shared_bind {gl : GL.Device σ} {f : Shared → Work σ α}
    {P : List GL.Event → Except Error α → State → Prop}
    (h : (f k.shared).Makes gl k P) :
    Act.Makes gl (shared >>= f) k P :=
  h

/-- The text that a stage is compiled from. -/
def sourceOf (b : Shared) (s : PlannedStage) : String :=
  (b.sources.lookup s.id).getD ""

/-- The calls that compile a stage and attach it. -/
def attachStage (b : Shared) (program : Int) (s : PlannedStage)
    (shader : Int) : List GL.Event :=
  [ ⟨.createShader s.stage.kind, .ok shader⟩,
    ⟨.shaderSource shader (sourceOf b s), .ok ()⟩,
    ⟨.compileShader shader, .ok ()⟩,
    ⟨.attachShader program shader, .ok ()⟩ ]

/-- The calls that release a stage. -/
def releaseStage (program shader : Int) : List GL.Event :=
  [⟨.detachShader program shader, .ok ()⟩, ⟨.deleteShader shader, .ok ()⟩]

/-- The calls that compile stages and attach them. -/
def attachEvents (b : Shared) (program : Int) (stages : List PlannedStage)
    (shaders : List Int) : List GL.Event :=
  (List.zipWith (attachStage b program) stages shaders).flatten

theorem attachStages_makes {gl : GL.Device σ} (hgl : ∀ call, gl.Answers call)
    (hname : Named plan) (program : Int) (stages : List PlannedStage)
    (holdings : Holdings) (k : State) :
    (attachStages gl plan program holdings stages).Makes gl k
      fun es r k' => k' = k ∧ ∃ shaders, shaders.length = stages.length ∧
        es = attachEvents k.shared program stages shaders ∧
        r = .ok shaders := by
  induction stages generalizing holdings with
  | nil => exact .pure ⟨rfl, [], rfl, rfl, rfl⟩
  | cons s rest ih =>
    simp only [attachStages, reach_of_named hname, pure_bind]
    refine .answered_bind (hgl _) fun shader => ?_
    refine shared_bind ?_
    refine .answered_bind (hgl _) fun _ => ?_
    refine .answered_bind (hgl _) fun _ => ?_
    refine .answered_bind (hgl _) fun _ => ?_
    refine .bind (ih _) ?_ ?_
    · rintro es shaders k' ⟨rfl, _, hlength, rfl, ⟨⟩⟩
      exact .pure ⟨rfl, shader :: shaders, by simp [hlength],
        by simp [attachEvents, attachStage, sourceOf], rfl⟩
    · rintro es e k' ⟨-, _, -, -, ⟨⟩⟩

theorem releaseStages_makes {gl : GL.Device σ} (hgl : ∀ call, gl.Answers call)
    (program : Int) (shaders : List Int) (k : State) :
    (releaseStages gl program shaders).Makes gl k fun es r k' => k' = k ∧
      es = shaders.flatMap (releaseStage program) ∧ r = .ok () := by
  induction shaders with
  | nil => exact .pure ⟨rfl, rfl, rfl⟩
  | cons shader rest ih =>
    unfold releaseStages
    refine .answered_bind (hgl _) fun _ => ?_
    refine .answered_bind (hgl _) fun _ => ?_
    refine ih.mono ?_
    rintro es r k' ⟨rfl, rfl, rfl⟩
    exact ⟨rfl, rfl, rfl⟩

/-! ## Looking up locations -/

/-- The locations after an answer for each name. -/
def located (names : List (String × String)) (answers : List Int)
    (locations : List (String × Int)) : List (String × Int) :=
  (names.zip answers).foldl
    (fun table q => Table.insert q.1.2 q.2 table) locations

/-- The state with other locations. -/
def State.withLocations (k : State) (locations : List (String × Int)) : State :=
  { k with shared := { k.shared with locations } }

/-- Each name is asked for, and the answer is kept under its identifier. -/
theorem resolveLocations_makes {gl : GL.Device σ}
    {ask : String → Act (Session σ) Int} (event : String → Int → GL.Event)
    (hask : ∀ name (k : State), (Act.onFirst (ask name)).Makes gl k
      fun es r k' => k' = k ∧
        ∃ location, es = [event name location] ∧ r = .ok location)
    (names : List (String × String)) (k : State) :
    (resolveLocations ask names).Makes gl k fun es r k' => ∃ answers,
      answers.length = names.length ∧
      es = List.zipWith (fun name => event name.1) names answers ∧
      r = .ok () ∧
      k' = k.withLocations (located names answers k.shared.locations) := by
  induction names generalizing k with
  | nil => exact .pure ⟨[], rfl, rfl, rfl, rfl⟩
  | cons name rest ih =>
    unfold resolveLocations
    refine .bind (hask name.1 k) ?_ ?_
    · rintro es location k' ⟨rfl, _, rfl, ⟨⟩⟩
      refine .modify_bind ((ih _).mono ?_)
      rintro es r k'' ⟨answers, hlength, rfl, rfl, rfl⟩
      exact ⟨location :: answers, by simp [hlength], rfl, rfl, rfl⟩
    · rintro es e k' ⟨-, _, -, ⟨⟩⟩

/-! ## The whole compilation -/

/-- What a device answers while the shared program is compiled. -/
structure Answers where
  program : Int
  shaders : List Int
  log : Option RawText
  uniforms : List Int
  attributes : List Int

/-- The names of the uniforms with their identifiers. -/
def uniformIds (plan : Plan) : List (String × String) :=
  plan.uniforms.map fun u => (u.name, u.id)

/-- The names of the attributes with their identifiers. -/
def attributeIds (plan : Plan) : List (String × String) :=
  plan.attributes.map fun a => (a.name, a.id)

namespace Answers

/-- There is an answer for everything that is asked. -/
structure Fit (a : Answers) (plan : Plan) : Prop where
  shaders : a.shaders.length = plan.stages.length
  uniforms : a.uniforms.length = plan.uniforms.length
  attributes : a.attributes.length = plan.attributes.length

/-- The calls that look up all locations, with these answers. -/
def lookups (a : Answers) (plan : Plan) : List GL.Event :=
  List.zipWith (fun name location =>
      ⟨.uniformLocation a.program name.1, .ok location⟩)
    (uniformIds plan) a.uniforms ++
  List.zipWith (fun name location =>
      ⟨.attributeLocation a.program name.1, .ok location⟩)
    (attributeIds plan) a.attributes

/-- The calls that compile the program that `b` shares, with these answers. -/
def events (a : Answers) (plan : Plan) (b : Shared) : List GL.Event :=
  ⟨.createProgram, .ok a.program⟩ ::
    (attachEvents b a.program plan.stages a.shaders ++
      (⟨.linkProgram a.program, .ok ()⟩ ::
        ⟨.programInfoLog a.program, .ok a.log⟩ ::
          (a.shaders.flatMap (releaseStage a.program) ++ a.lookups plan)))

/-- What is shared by these answers. -/
def result (a : Answers) (plan : Plan) (k : State) : State :=
  { k with shared := { k.shared with
      program := a.program
      locations := located (attributeIds plan) a.attributes
        (located (uniformIds plan) a.uniforms k.shared.locations) } }

end Answers

/-- What comes of preparing a compilation: stages may have to be read. -/
def ready (plan : Plan) (k : State) : Except Error Unit × State :=
  if plan.options.reload then
    let (r, sources) := loaded k.files plan.stages k.shared.sources
    (r, k.withSources sources)
  else (.ok (), k)

/-- How the shared program is compiled, by a device that never fails. -/
inductive ShaderCompiled (plan : Plan) (k : State) :
    List GL.Event → Except Error Unit → State → Prop
  | notReady {e : Error} (h : (ready plan k).1 = .error e) :
    ShaderCompiled plan k [] (.error e) (ready plan k).2
  | answered (a : Answers) (h : (ready plan k).1 = .ok ()) (hfit : a.Fit plan) :
    ShaderCompiled plan k (a.events plan (ready plan k).2.shared) (.ok ())
      (a.result plan (ready plan k).2)

/-- The part of a compilation that follows when the stages are there. -/
def compileReady (gl : GL.Device σ) (plan : Plan) : Work σ Unit := do
  let program ← gl.perform .createProgram
  let shaders ←
    attachStages gl plan program [holdsHandle "program"] plan.stages
  gl.perform (.linkProgram program)
  let log ← gl.perform (.programInfoLog program)
  Act.onFirst (Session.debug
    s!"{ModuleText.qualifiedName plan.options} link log: {GL.logText log}")
  releaseStages gl program shaders
  reach plan .compileShader "_program_id" [holdsHandle "program"]
  share fun b => { b with program }
  resolveLocations (fun name => gl.perform (.uniformLocation program name))
    (uniformIds plan)
  resolveLocations (fun name => gl.perform (.attributeLocation program name))
    (attributeIds plan)

theorem compileShader_eq (gl : GL.Device σ) (plan : Plan) :
    compileShader gl plan =
      (if plan.options.reload then do
        reach plan .compileShader "_load_shaders" []
        loadStages plan.stages
        compileReady gl plan
      else compileReady gl plan) := by
  unfold compileShader
  cases plan.options.reload <;> rfl

theorem compileReady_makes {gl : GL.Device σ} (hgl : ∀ call, gl.Answers call)
    (hname : Named plan) (k : State) :
    (compileReady gl plan).Makes gl k fun es r k' => ∃ a : Answers,
      a.Fit plan ∧ es = a.events plan k.shared ∧ r = .ok () ∧
        k' = a.result plan k := by
  simp only [compileReady, reach_of_named hname, pure_bind]
  refine .answered_bind (hgl _) fun program => ?_
  refine .bind (attachStages_makes hgl hname program _ _ k) ?_ ?_
  · rintro es shaders k' ⟨rfl, _, hshaders, rfl, ⟨⟩⟩
    refine .answered_bind (hgl _) fun _ => ?_
    refine .answered_bind (hgl _) fun log => ?_
    refine .write_bind ?_
    refine .bind (releaseStages_makes hgl program shaders k') ?_ ?_
    · rintro es _ k' ⟨rfl, rfl, -⟩
      refine .modify_bind ?_
      refine .bind (resolveLocations_makes
        (fun name location => ⟨.uniformLocation program name, .ok location⟩)
        (fun _ _ => .answered (hgl _)) _ _) ?_ ?_
      · rintro es _ k'' ⟨uniforms, huniforms, rfl, -, rfl⟩
        refine (resolveLocations_makes
          (fun name location => ⟨.attributeLocation program name, .ok location⟩)
          (fun _ _ => .answered (hgl _)) _ _).mono ?_
        rintro es r k'' ⟨attributes, hattributes, rfl, rfl, rfl⟩
        refine ⟨⟨program, shaders, log, uniforms, attributes⟩, ?_, rfl, rfl,
          rfl⟩
        exact ⟨hshaders, by simpa [uniformIds] using huniforms,
          by simpa [attributeIds] using hattributes⟩
      · rintro es e k'' ⟨_, -, -, ⟨⟩, -⟩
    · rintro es e k' ⟨-, -, ⟨⟩⟩
  · rintro es e k' ⟨-, _, -, -, ⟨⟩⟩

theorem ready_of_embedded (h : plan.options.reload = false) (k : State) :
    ready plan k = (.ok (), k) := by
  simp [ready, h]

theorem compileShader_makes {gl : GL.Device σ} (hgl : ∀ call, gl.Answers call)
    (hname : Named plan) (k : State) :
    (compileShader gl plan).Makes gl k (ShaderCompiled plan k) := by
  -- once the stages are there, both kinds of classes go on alike
  have hgo (h : (ready plan k).1 = .ok ()) :
      (compileReady gl plan).Makes gl (ready plan k).2
        (ShaderCompiled plan k) := by
    refine (compileReady_makes hgl hname _).mono ?_
    rintro es r k' ⟨a, hfit, rfl, rfl, rfl⟩
    exact .answered a h hfit
  rw [compileShader_eq]
  cases hreload : plan.options.reload with
  | false =>
    have hready := ready_of_embedded hreload k
    rw [hready] at hgo
    exact hgo rfl
  | true =>
    have hready : ready plan k =
        ((loaded k.files plan.stages k.shared.sources).1,
          k.withSources (loaded k.files plan.stages k.shared.sources).2) := by
      simp [ready, hreload]
    simp only [if_true, reach_of_named hname, pure_bind]
    refine .bind (loadStages_makes gl plan.stages k) ?_ ?_
    · rintro es _ k' ⟨rfl, hr, rfl⟩
      rw [hready] at hgo
      simpa using hgo hr.symm
    · rintro es e k' ⟨rfl, hr, rfl⟩
      have h : ShaderCompiled plan k [] (.error e) (ready plan k).2 :=
        .notReady (by rw [hready, ← hr])
      rwa [hready] at h

end ShaderBindings.Binding
