import ShaderBindings.Proofs.Binding.Direct
import ShaderBindings.Proofs.Interruption

/-!
# Binding — Failure

What a compilation of the shared program leaves behind when it fails, on any
device. `Failed` says all that can happen. Nothing is given back then: a failure
between the creation of the program and the last release of a shader loses the
program, and so leaves nothing exactly if it comes before all of these calls or
after them.
-/

namespace ShaderBindings.GL

/-- The call makes shaders into a program, or gives them back. -/
def Call.isAssembling : Call → Bool
  | createShader _ | shaderSource .. | compileShader _ | attachShader ..
  | linkProgram _ | programInfoLog _ | detachShader .. | deleteShader _ => true
  | _ => false

/-- The call asks where a variable is. -/
def Call.isLocating : Call → Bool
  | uniformLocation .. | attributeLocation .. => true
  | _ => false

/-- Looking up locations has nothing to do with handles. -/
theorem Event.inert_of_isLocating {e : Event} (h : e.call.isLocating = true) :
    e.call.isAssembling = false ∧ e.programCreated? = none ∧
      e.shaderCreated? = none := by
  obtain ⟨call, result⟩ := e
  cases result <;> cases call <;> first | exact ⟨rfl, rfl, rfl⟩ | cases h

theorem Event.programCreated?_of_isAssembling {e : Event}
    (h : e.call.isAssembling = true) : e.programCreated? = none := by
  refine programCreated?_eq_none fun heq => ?_
  rw [heq] at h
  cases h

end ShaderBindings.GL

namespace ShaderBindings.Binding

variable {σ : Type} {plan : Plan} {k k' : State} {b : Shared} {program : Int}
variable {es : List GL.Event} {e : Error} {fault : ExternalFault}

/-! ## Parts of a compilation on any device -/

theorem attachStages_carried (gl : GL.Device σ) (hname : Named plan)
    (program : Int) (stages : List PlannedStage) (holdings : Holdings)
    (k : State) :
    (attachStages gl plan program holdings stages).Makes gl k
      fun es r k' => k' = k ∧ ∃ shaders, shaders.length = stages.length ∧
        Act.Carried (attachEvents k.shared program stages shaders) shaders
          es r := by
  induction stages generalizing holdings with
  | nil => exact .pure ⟨rfl, [], rfl, .inl ⟨rfl, rfl⟩⟩
  | cons s rest ih =>
    -- the shaders that are not created any more may have any handles
    have broken (shader : Int) {es : List GL.Event} {fault : ExternalFault}
        (hcut : GL.CutShort fault
          (attachStage k.shared program s shader) es) :
        k = k ∧ ∃ shaders, shaders.length = (s :: rest).length ∧
          Act.Carried (attachEvents k.shared program (s :: rest) shaders)
            shaders es (.error (.external fault)) :=
      ⟨rfl, shader :: rest.map fun _ => 0, by simp,
        .inr ⟨fault, hcut.append_right _, rfl⟩⟩
    simp only [attachStages, reach_of_named hname, pure_bind]
    refine .perform_bind (fun shader => ?_) fun fault _ =>
      broken 0 .here
    refine shared_bind ?_
    refine .perform_bind (fun _ => ?_) fun fault _ =>
      broken shader (.later .here)
    refine .perform_bind (fun _ => ?_) fun fault _ =>
      broken shader (.later (.later .here))
    refine .perform_bind (fun _ => ?_) fun fault _ =>
      broken shader (.later (.later (.later .here)))
    refine .bind (ih _) ?_ ?_
    · rintro es shaders k' ⟨rfl, _, hlength, ⟨rfl, ⟨⟩⟩ | ⟨_, -, ⟨⟩⟩⟩
      exact .pure ⟨rfl, shader :: shaders, by simp [hlength],
        .inl ⟨by simp [attachEvents, attachStage, sourceOf], rfl⟩⟩
    · rintro es e k' ⟨rfl, shaders, hlength, ⟨-, ⟨⟩⟩ | ⟨fault, hcut, ⟨⟩⟩⟩
      exact ⟨rfl, shader :: shaders, by simp [hlength],
        .inr ⟨fault, hcut.append_left (attachStage _ program s shader), rfl⟩⟩

theorem releaseStages_carried (gl : GL.Device σ) (program : Int)
    (shaders : List Int) (k : State) :
    (releaseStages gl program shaders).Makes gl k fun es r k' => k' = k ∧
      Act.Carried (shaders.flatMap (releaseStage program)) () es r := by
  induction shaders with
  | nil => exact .pure ⟨rfl, .inl ⟨rfl, rfl⟩⟩
  | cons shader rest ih =>
    unfold releaseStages
    refine .perform_bind (fun _ => ?_) fun fault _ =>
      ⟨rfl, .inr ⟨fault, .here, rfl⟩⟩
    refine .perform_bind (fun _ => ?_) fun fault _ =>
      ⟨rfl, .inr ⟨fault, .later .here, rfl⟩⟩
    refine ih.mono ?_
    rintro es r k' ⟨rfl, ⟨rfl, rfl⟩ | ⟨fault, hcut, rfl⟩⟩
    · exact ⟨rfl, .inl ⟨rfl, rfl⟩⟩
    · exact ⟨rfl, .inr ⟨fault, hcut.later.later, rfl⟩⟩

/-- Each name is asked for until one question fails; the answers are kept. -/
theorem resolveLocations_carried {gl : GL.Device σ}
    {ask : String → Act (Session σ) Int} (event : String → Int → GL.Event)
    (hask : ∀ name (k : State), (Act.onFirst (ask name)).Makes gl k
      fun es r k' => k' = k ∧
        ∃ location, Act.Carried [event name location] location es r)
    (names : List (String × String)) (k : State) :
    (resolveLocations ask names).Makes gl k fun es r k' =>
      ∃ answers locations, answers.length = names.length ∧
        k' = k.withLocations locations ∧
        Act.Carried (List.zipWith (fun name => event name.1) names answers) ()
          es r := by
  induction names generalizing k with
  | nil => exact .pure ⟨[], k.shared.locations, rfl, rfl, .inl ⟨rfl, rfl⟩⟩
  | cons name rest ih =>
    unfold resolveLocations
    refine .bind (hask name.1 k) ?_ ?_
    · rintro es location k' ⟨rfl, _, ⟨rfl, ⟨⟩⟩ | ⟨_, -, ⟨⟩⟩⟩
      refine .modify_bind ((ih _).mono ?_)
      rintro es r k'' ⟨answers, locations, hlength, rfl, hcarried⟩
      refine ⟨location :: answers, locations, by simp [hlength], rfl, ?_⟩
      obtain ⟨rfl, rfl⟩ | ⟨fault, hcut, rfl⟩ := hcarried
      · exact .inl ⟨rfl, rfl⟩
      · exact .inr ⟨fault, hcut.later, rfl⟩
    · rintro es e k' ⟨rfl, location, ⟨-, ⟨⟩⟩ | ⟨fault, hcut, ⟨⟩⟩⟩
      exact ⟨location :: rest.map fun _ => 0, k'.shared.locations, by simp, rfl,
        .inr ⟨fault, hcut.append_right _, rfl⟩⟩

/-- A single call, of which some reply was to be had. -/
theorem perform_carried (gl : GL.Device σ) {call : GL.Call}
    (reply : call.Reply) (k : State) :
    (Act.onFirst (gl.perform call)).Makes gl k fun es r k' => k' = k ∧
      ∃ reply, Act.Carried [⟨call, .ok reply⟩] reply es r :=
  .perform (fun reply => ⟨rfl, reply, .inl ⟨rfl, rfl⟩⟩) fun fault _ =>
    ⟨rfl, reply, .inr ⟨fault, .here, rfl⟩⟩

/-! ## The whole compilation on any device -/

namespace Answers

/-- The calls between the creation of the program and the look-up of the
locations. -/
def assembly (a : Answers) (plan : Plan) (b : Shared) : List GL.Event :=
  attachEvents b a.program plan.stages a.shaders ++
    (⟨.linkProgram a.program, .ok ()⟩ ::
      ⟨.programInfoLog a.program, .ok a.log⟩ ::
        a.shaders.flatMap (releaseStage a.program))

/-- Answers for a compilation that never comes to the locations. -/
def unlocated (plan : Plan) (program : Int) (shaders : List Int)
    (log : Option RawText) : Answers where
  program := program
  shaders := shaders
  log := log
  uniforms := plan.uniforms.map fun _ => 0
  attributes := plan.attributes.map fun _ => 0

theorem fit_unlocated {shaders : List Int}
    (h : shaders.length = plan.stages.length) (program : Int)
    (log : Option RawText) : (unlocated plan program shaders log).Fit plan :=
  ⟨h, by simp [unlocated], by simp [unlocated]⟩

theorem isAssembling_of_mem {a : Answers} {e : GL.Event}
    (h : e ∈ a.assembly plan b) : e.call.isAssembling = true := by
  simp only [assembly, List.mem_append, List.mem_cons, List.mem_flatMap] at h
  obtain h | rfl | rfl | ⟨shader, -, h⟩ := h
  · obtain ⟨s, -, shader, -, h⟩ := mem_attachEvents h
    simp only [attachStage, List.mem_cons, List.not_mem_nil, or_false] at h
    obtain rfl | rfl | rfl | rfl := h <;> rfl
  · rfl
  · rfl
  · simp only [releaseStage, List.mem_cons, List.not_mem_nil, or_false] at h
    obtain rfl | rfl := h <;> rfl

theorem programsCreated_assembly (a : Answers) :
    GL.programsCreated (a.assembly plan b) = [] :=
  List.filterMap_eq_nil_iff.mpr fun _ he =>
    GL.Event.programCreated?_of_isAssembling (isAssembling_of_mem he)

theorem mem_shadersCreated_assembly {a : Answers} {shader : Int}
    (hfit : a.Fit plan) (h : shader ∈ GL.shadersCreated (a.assembly plan b)) :
    shader ∈ a.shaders := by
  have hreleases : GL.shadersCreated
      (a.shaders.flatMap (releaseStage a.program)) = [] :=
    filterMap_releaseStage (fun _ => rfl) fun _ => rfl
  rw [assembly, GL.shadersCreated_append,
    shadersCreated_attachEvents hfit.shaders] at h
  obtain h | h := List.mem_append.mp h
  · exact h
  · replace h : shader ∈ GL.shadersCreated
      (a.shaders.flatMap (releaseStage a.program)) := h
    rw [hreleases] at h
    cases h

theorem deleted_assembly {a : Answers} {shader : Int} (h : shader ∈ a.shaders) :
    ⟨.deleteShader shader, .ok ()⟩ ∈ a.assembly plan b :=
  List.mem_append_right _ (.tail _ (.tail _
    (List.mem_flatMap.mpr ⟨shader, h, .tail _ (.head _)⟩)))

theorem isLocating_of_mem {a : Answers} {e : GL.Event}
    (h : e ∈ a.lookups plan) : e.call.isLocating = true := by
  obtain ⟨name, location, rfl | rfl⟩ := mem_lookups h <;> rfl

end Answers

/-- The variables of both kinds are looked up, until one question fails. -/
theorem locate_carried (gl : GL.Device σ) {shaders : List Int}
    (hshaders : shaders.length = plan.stages.length) (log : Option RawText)
    (k : State) :
    (do resolveLocations
          (fun name => gl.perform (.uniformLocation program name))
          (uniformIds plan)
        resolveLocations
          (fun name => gl.perform (.attributeLocation program name))
          (attributeIds plan)).Makes gl k fun es r k' => ∃ a : Answers,
      a.program = program ∧ a.shaders = shaders ∧ a.log = log ∧
        ∃ locations, a.Fit plan ∧ k' = k.withLocations locations ∧
          Act.Carried (a.lookups plan) () es r := by
  have hlength {α : Type} {f : α → String × String} {items : List α}
      {answers : List Int} (h : answers.length = (items.map f).length) :
      answers.length = items.length := by
    simpa using h
  refine .bind (resolveLocations_carried
    (fun name location => ⟨.uniformLocation program name, .ok location⟩)
    (fun _ _ => perform_carried gl (0 : Int) _) _ _) ?_ ?_
  · rintro es _ k' ⟨uniforms, _, huniforms, rfl, ⟨rfl, -⟩ | ⟨_, -, ⟨⟩⟩⟩
    refine (resolveLocations_carried
      (fun name location => ⟨.attributeLocation program name, .ok location⟩)
      (fun _ _ => perform_carried gl (0 : Int) _) _ _).mono ?_
    rintro es r k' ⟨attributes, locations, hattributes, rfl, hcarried⟩
    let a : Answers := ⟨program, shaders, log, uniforms, attributes⟩
    have hfit : a.Fit plan := ⟨hshaders, hlength huniforms, hlength hattributes⟩
    refine ⟨a, rfl, rfl, rfl, locations, hfit, rfl, ?_⟩
    obtain ⟨rfl, rfl⟩ | ⟨fault, hcut, rfl⟩ := hcarried
    · exact .inl ⟨rfl, rfl⟩
    · exact .inr ⟨fault, hcut.append_left _, rfl⟩
  · rintro es e k' ⟨uniforms, locations, huniforms, rfl, hcarried⟩
    obtain ⟨-, ⟨⟩⟩ | ⟨fault, hcut, ⟨⟩⟩ := hcarried
    let a : Answers :=
      { Answers.unlocated plan program shaders log with uniforms }
    have hfit : a.Fit plan := ⟨hshaders, hlength huniforms,
      (Answers.fit_unlocated hshaders program log).attributes⟩
    exact ⟨a, rfl, rfl, rfl, locations, hfit, rfl,
      .inr ⟨fault, hcut.append_right _, rfl⟩⟩

/-- How a compilation fails once the stages are there. -/
inductive Broken (plan : Plan) (k : State) :
    List GL.Event → Error → State → Prop
  | notCreated {fault : ExternalFault} :
    Broken plan k [⟨.createProgram, .error fault⟩] (.external fault) k
  | notBuilt (a : Answers) {es : List GL.Event} {fault : ExternalFault}
      (hfit : a.Fit plan)
      (hcut : GL.CutShort fault (a.assembly plan k.shared) es) :
    Broken plan k (⟨.createProgram, .ok a.program⟩ :: es) (.external fault) k
  /-- The program is shared when a location is looked up. -/
  | notLocated (a : Answers) (locations : List (String × Int))
      {es : List GL.Event} {fault : ExternalFault} (hfit : a.Fit plan)
      (hcut : GL.CutShort fault (a.lookups plan) es) :
    Broken plan k
      (⟨.createProgram, .ok a.program⟩ :: (a.assembly plan k.shared ++ es))
      (.external fault)
      { k with shared := { k.shared with program := a.program, locations } }
  /-- The class does not find itself by its name. -/
  | abandoned {program : Int} {es : List GL.Event} {e : Error} {name : String}
      (hname : Unnamed plan name) (hne : es ≠ [])
      (hes : ∀ e ∈ es, e.call.isAssembling = true) :
    Broken plan k (⟨.createProgram, .ok program⟩ :: es) e k

theorem Broken.of_lookups (a : Answers) {locations : List (String × Int)}
    (hfit : a.Fit plan) (hcut : GL.CutShort fault (a.lookups plan) es) :
    Broken plan k
      (⟨.createProgram, .ok a.program⟩ ::
        (attachEvents k.shared a.program plan.stages a.shaders ++
          (⟨.linkProgram a.program, .ok ()⟩ ::
            ⟨.programInfoLog a.program, .ok a.log⟩ ::
              (a.shaders.flatMap (releaseStage a.program) ++ es))))
      (.external fault)
      { k with shared :=
        { k.shared with program := a.program, locations } } := by
  simpa only [Answers.assembly, List.append_assoc, List.cons_append] using
    Broken.notLocated a locations hfit hcut

theorem compileReady_breaks (gl : GL.Device σ) (hname : Named plan)
    (k : State) :
    (compileReady gl plan).Makes gl k fun es r k' =>
      ∀ e, r = .error e → Broken plan k es e k' := by
  simp only [compileReady, reach_of_named hname, pure_bind]
  refine .perform_bind (fun program => ?_) fun fault _ => ?_
  swap
  · rintro _ ⟨⟩
    exact .notCreated
  refine .bind (attachStages_carried gl hname program _ _ k) ?_ ?_
  · rintro es shaders k' ⟨rfl, _, hlength, ⟨rfl, ⟨⟩⟩ | ⟨_, -, ⟨⟩⟩⟩
    have hfit := Answers.fit_unlocated hlength program
    refine .perform_bind (fun _ => ?_) fun fault _ => ?_
    swap
    · rintro _ ⟨⟩
      exact .notBuilt _ (hfit none) (.append_left .here _)
    refine .perform_bind (fun log => ?_) fun fault _ => ?_
    swap
    · rintro _ ⟨⟩
      exact .notBuilt _ (hfit none) (.append_left (.later .here) _)
    refine .write_bind ?_
    refine .bind (releaseStages_carried gl program shaders k') ?_ ?_
    · rintro es _ k' ⟨rfl, ⟨rfl, -⟩ | ⟨_, -, ⟨⟩⟩⟩
      refine .modify_bind ?_
      refine (locate_carried gl hlength log _).mono ?_
      rintro es r k'' ⟨a, rfl, rfl, rfl, locations, hfit, rfl, hcarried⟩ e rfl
      obtain ⟨-, ⟨⟩⟩ | ⟨fault, hcut, ⟨⟩⟩ := hcarried
      exact .of_lookups a hfit hcut
    · rintro es e k' ⟨rfl, ⟨-, ⟨⟩⟩ | ⟨fault, hcut, ⟨⟩⟩⟩ _ ⟨⟩
      exact .notBuilt _ (hfit log) (.append_left (.later (.later hcut)) _)
  · rintro es e k' ⟨rfl, shaders, hlength, ⟨-, ⟨⟩⟩ | ⟨fault, hcut, ⟨⟩⟩⟩ _ ⟨⟩
    exact .notBuilt _ (Answers.fit_unlocated hlength program none)
      (hcut.append_right _)

theorem compileReady_breaks_of_unnamed (gl : GL.Device σ) {name : String}
    (h : Unnamed plan name) (k : State) :
    (compileReady gl plan).Makes gl k fun es r k' =>
      ∀ e, r = .error e → Broken plan k es e k' := by
  have abandoned {program : Int} {es : List GL.Event} {r : Except Error Unit}
      (hne : es ≠ []) (hes : ∀ e ∈ es, e.call.isAssembling = true) :
      ∀ e, r = .error e →
        Broken plan k (⟨.createProgram, .ok program⟩ :: es) e k :=
    fun _ _ => .abandoned h hne hes
  unfold compileReady
  refine .perform_bind (fun program => ?_) fun fault _ => ?_
  swap
  · rintro _ ⟨⟩
    exact .notCreated
  cases plan.stages with
  | nil =>
    simp only [attachStages, releaseStages, pure_bind, reach_of_unnamed h,
      Act.fail_bind]
    refine .perform_bind (fun _ => ?_) fun fault _ =>
      abandoned (by simp) (by simp [GL.Call.isAssembling])
    refine .perform_bind (fun log => ?_) fun fault _ =>
      abandoned (by simp) (by simp [GL.Call.isAssembling])
    exact .write_bind (.fail
      (abandoned (by simp) (by simp [GL.Call.isAssembling])))
  | cons s rest =>
    simp only [attachStages, Act.bind_assoc, reach_of_unnamed h, Act.fail_bind]
    refine .perform_bind (fun shader => ?_) fun fault _ =>
      abandoned (by simp) (by simp [GL.Call.isAssembling])
    exact .fail (abandoned (by simp) (by simp [GL.Call.isAssembling]))

/-- How a compilation fails. -/
inductive Failed (plan : Plan) (k : State) :
    List GL.Event → Error → State → Prop
  | notReady {e : Error} (h : (ready plan k).1 = .error e) :
    Failed plan k [] e (ready plan k).2
  /-- The class does not find itself by its name, before it calls anything. -/
  | notReached {name : String} (h : Unnamed plan name) :
    Failed plan k [] (.undefinedName name) k
  | broken {es : List GL.Event} {e : Error} {k' : State}
      (h : (ready plan k).1 = .ok ())
      (hb : Broken plan (ready plan k).2 es e k') :
    Failed plan k es e k'

theorem compileShader_fails (gl : GL.Device σ) (hfree : NameFree plan)
    (k : State) :
    (compileShader gl plan).Makes gl k fun es r k' =>
      ∀ e, r = .error e → Failed plan k es e k' := by
  -- once the stages are there, both kinds of classes go on alike
  have hgo (h : (ready plan k).1 = .ok ()) :
      (compileReady gl plan).Makes gl (ready plan k).2 fun es r k' =>
        ∀ e, r = .error e → Failed plan k es e k' := by
    obtain hname | ⟨name, hname⟩ := hfree.named_or_unnamed
    · exact (compileReady_breaks gl hname _).mono fun _ _ _ hb e he =>
        .broken h (hb e he)
    · exact (compileReady_breaks_of_unnamed gl hname _).mono
        fun _ _ _ hb e he => .broken h (hb e he)
  rw [compileShader_eq]
  cases hreload : plan.options.reload with
  | false =>
    rw [ready_of_embedded hreload] at hgo
    exact hgo rfl
  | true =>
    simp only [if_true]
    obtain hname | ⟨name, hname⟩ := hfree.named_or_unnamed
    · have hready : ready plan k =
          ((loaded k.files plan.stages k.shared.sources).1,
            k.withSources (loaded k.files plan.stages k.shared.sources).2) := by
        simp [ready, hreload]
      simp only [reach_of_named hname, pure_bind]
      refine .bind (loadStages_makes gl plan.stages k) ?_ ?_
      · rintro es _ k' ⟨rfl, hr, rfl⟩
        rw [hready] at hgo
        simpa using hgo hr.symm
      · rintro es e k' ⟨rfl, hr, rfl⟩ _ ⟨⟩
        have h : Failed plan k [] e (ready plan k).2 :=
          .notReady (by rw [hready, ← hr])
        rwa [hready] at h
    · simp only [reach_of_unnamed hname, Act.fail_bind]
      refine .fail ?_
      rintro _ ⟨⟩
      exact .notReached hname

/-! ## What is left -/

/-- Every program that was created is shared or has been deleted, and every
shader has been deleted. -/
structure NothingLeft (es : List GL.Event) (b : Shared) : Prop where
  programs : ∀ p ∈ GL.programsCreated es,
    p = b.program ∨ ⟨.deleteProgram p, .ok ()⟩ ∈ es
  shaders : ∀ h ∈ GL.shadersCreated es, ⟨.deleteShader h, .ok ()⟩ ∈ es

/-- A program that is not shared is left by the calls that were to make it. -/
theorem nothingLeft_assembling_iff (hne : es ≠ [])
    (hes : ∀ e ∈ es, e.call.isAssembling = true) (hp : program ≠ b.program) :
    NothingLeft (⟨.createProgram, .ok program⟩ :: es) b ↔
      ∀ e ∈ (⟨.createProgram, .ok program⟩ :: es : List GL.Event).getLast?,
        e.call.isAssembling = false := by
  refine iff_of_false ?_ ?_
  · intro h
    obtain heq | hdeleted := h.programs program List.mem_cons_self
    · exact hp heq
    · obtain - | ⟨_, hdeleted⟩ := hdeleted
      cases hes _ hdeleted
  · intro h
    obtain ⟨e, he⟩ := Option.isSome_iff_exists.mp
      (List.getLast?_isSome.mpr hne)
    have htrue := hes e (List.mem_of_getLast? he)
    have hfalse := h e (by rw [List.getLast?_cons, he]; rfl)
    cases htrue.symm.trans hfalse

/-- A program that is shared while its locations are looked up is not left, and
neither is a shader. -/
theorem nothingLeft_locating_iff {a : Answers} (hfit : a.Fit plan)
    (hne : es ≠ []) (hes : ∀ e ∈ es, e.call.isLocating = true)
    (hp : b.program = a.program) (b' : Shared) :
    NothingLeft (⟨.createProgram, .ok a.program⟩ :: (a.assembly plan b' ++ es))
        b ↔
      ∀ e ∈ (⟨.createProgram, .ok a.program⟩ ::
          (a.assembly plan b' ++ es) : List GL.Event).getLast?,
        e.call.isAssembling = false := by
  have hprograms : GL.programsCreated es = [] :=
    List.filterMap_eq_nil_iff.mpr fun e he =>
      (GL.Event.inert_of_isLocating (hes e he)).2.1
  have hshaders : GL.shadersCreated es = [] :=
    List.filterMap_eq_nil_iff.mpr fun e he =>
      (GL.Event.inert_of_isLocating (hes e he)).2.2
  refine iff_of_true ⟨fun p hmem => .inl ?_, fun h hmem => ?_⟩ ?_
  · have hcreated : GL.programsCreated (⟨.createProgram, .ok a.program⟩ ::
        (a.assembly plan b' ++ es)) = [a.program] := by
      show a.program :: GL.programsCreated (a.assembly plan b' ++ es) = _
      rw [GL.programsCreated_append, a.programsCreated_assembly, hprograms]
      rfl
    rw [hcreated] at hmem
    exact (List.mem_singleton.mp hmem).trans hp.symm
  · replace hmem : h ∈ GL.shadersCreated (a.assembly plan b' ++ es) := hmem
    rw [GL.shadersCreated_append, hshaders, List.append_nil] at hmem
    refine .tail _ (List.mem_append_left _ ?_)
    exact Answers.deleted_assembly (a.mem_shadersCreated_assembly hfit hmem)
  · intro e he
    obtain ⟨last, hlast⟩ := Option.isSome_iff_exists.mp
      (List.getLast?_isSome.mpr hne)
    rw [List.getLast?_cons, List.getLast?_append, hlast] at he
    obtain rfl : last = e := Option.some.inj he
    exact (GL.Event.inert_of_isLocating
      (hes last (List.mem_of_getLast? hlast))).1

namespace Failed

theorem references_eq (h : Failed plan k es e k') :
    k'.shared.references = k.shared.references := by
  cases h with
  | notReached _ => rfl
  | notReady _ => exact (ready_shared plan k).2
  | broken _ hb => cases hb <;> exact (ready_shared plan k).2

/-- A compilation that fails leaves nothing exactly if the last call that it has
made is not one of those that make shaders into a program. -/
theorem nothingLeft_iff (h : Failed plan k es e k')
    (hnone : k.shared.program = 0) (hzero : 0 ∉ GL.programsCreated es) :
    NothingLeft es k'.shared ↔
      ∀ e ∈ es.getLast?, e.call.isAssembling = false := by
  have hprogram : (ready plan k).2.shared.program = 0 :=
    (ready_shared plan k).1.trans hnone
  have hnew {program : Int} {es : List GL.Event}
      (h : 0 ∉ GL.programsCreated (⟨.createProgram, .ok program⟩ :: es)) :
      program ≠ (ready plan k).2.shared.program := by
    rw [hprogram]
    rintro rfl
    exact h List.mem_cons_self
  cases h with
  | notReady _ | notReached _ =>
    exact iff_of_true ⟨by simp, by simp⟩ (by simp)
  | broken _ hb =>
    cases hb with
    | notCreated =>
      refine iff_of_true ⟨?_, ?_⟩ ?_
      · rintro p ⟨⟩
      · rintro h ⟨⟩
      · rintro e ⟨⟩
        rfl
    | notBuilt a hfit hcut =>
      have hes := hcut.forall_call (p := fun c => c.isAssembling = true)
        fun e he => a.isAssembling_of_mem he
      exact nothingLeft_assembling_iff hcut.ne_nil hes (hnew hzero)
    | notLocated a locations hfit hcut =>
      have hes := hcut.forall_call (p := fun c => c.isLocating = true)
        fun e he => a.isLocating_of_mem he
      exact nothingLeft_locating_iff hfit hcut.ne_nil hes rfl _
    | abandoned _ hne hes =>
      exact nothingLeft_assembling_iff hne hes (hnew hzero)

end Failed

/-! ## Demands that compile -/

/-- The demand compiles the program if there is none. -/
def Demand.compiles : Demand → Bool
  | .use u => u.compiles
  | .direct => true

theorem Demand.act_fails (gl : GL.Device σ) (hfree : NameFree plan) {d : Demand}
    (hd : d.compiles = true) (hnone : k.shared.program = 0) :
    (d.act gl plan).Makes gl k fun es r k' =>
      ∀ e, r = .error e → Failed plan k es e k' := by
  have hcompile (self : String) :
      (compile gl plan self).Makes gl k fun es r k' =>
        ∀ e, r = .error e → Failed plan k es e k' := by
    obtain hname | ⟨name, hname⟩ := hfree.named_or_unnamed
    · simp only [compile, reach_of_named hname, seenProgram_of_named hname,
        pure_bind, Act.bind_assoc]
      refine shared_bind ?_
      simp only [hnone, if_true]
      refine .bind (compileShader_fails gl hfree k) ?_ ?_
      · intro es _ k' _
        refine (acquire_makes gl k').mono ?_
        rintro _ _ _ ⟨-, rfl, -⟩ _ ⟨⟩
      · rintro es e k' h _ ⟨⟩
        exact h e rfl
    · simp only [compile, reach_of_unnamed hname, Act.fail_bind]
      refine .fail ?_
      rintro _ ⟨⟩
      exact .notReached hname
  cases d with
  | direct => exact compileShader_fails gl hfree k
  | use u =>
    cases u with
    | compile self | enter self => exact hcompile self
    | create _ | recompile _ | dispose _ | leave _ | edit _ => cases hd

/-- When the program cannot be compiled, no reference is taken. Nothing is left
if no program could be created or a location could not be looked up. Otherwise
the program is lost: neither is it deleted, nor does the class have it. -/
theorem compile_nothingLeft_iff (gl : GL.Device σ) (hfree : NameFree plan)
    {d : Demand} (hd : d.compiles = true) (s : Session σ)
    (hnone : k.shared.program = 0) :
    ∃ es r s' k', d.act gl plan (s, k) = (r, s', k') ∧
      s'.trace = s.trace ++ es.map .gl ∧
      ∀ e, r = .error e → k'.shared.references = k.shared.references ∧
        (0 ∉ GL.programsCreated es →
          (NothingLeft es k'.shared ↔
            ∀ e ∈ es.getLast?, e.call.isAssembling = false)) := by
  obtain ⟨es, r, s', k', hrun, htrace, -, hfails⟩ :=
    d.act_fails gl hfree hd hnone s
  refine ⟨es, r, s', k', hrun, htrace, fun e he => ?_⟩
  have hfailed := hfails e he
  exact ⟨hfailed.references_eq, hfailed.nothingLeft_iff hnone⟩

/-- The stages are compiled and attached, but they cannot be linked. -/
theorem compile_nothingLeft_iff_unlinked :
    let gl := GL.Device.numbering (· matches .linkProgram _) []
    let plan : Plan := ⟨{}, [], [], [⟨⟨"a.vert", .vertex, ""⟩, "vertex"⟩]⟩
    let x := compile gl plan "s" (⟨0, [], []⟩,
      { shared := Shared.initial plan })
    x.1 = .error (.external (.failed "glLinkProgram")) ∧
      x.2.2.shared.references.count = 0 ∧
      ¬ NothingLeft x.2.1.calls x.2.2.shared := by
  intro gl plan x
  have hfree : NameFree plan := by
    intro m
    cases m <;> decide +kernel
  let k : State := { shared := Shared.initial plan }
  have hd : (Demand.use (.compile "s")).compiles = true := rfl
  have hnone : k.shared.program = 0 := rfl
  obtain ⟨es, r, s', k', hrun, htrace, h⟩ :=
    compile_nothingLeft_iff gl hfree hd ⟨0, [], []⟩ hnone
  have hx : x = (r, s', k') := hrun
  have hresult : x.1 = .error (.external (.failed "glLinkProgram")) := by
    decide +kernel
  have hcalls : x.2.1.calls = es := by
    rw [hx]
    exact Session.calls_eq htrace
  obtain ⟨hreferences, hleft⟩ := h _ ((congrArg Prod.fst hx).symm.trans hresult)
  refine ⟨hresult, ?_, ?_⟩
  · rw [hx, hreferences]
    rfl
  · have hcreated : GL.programsCreated es = [1] := by
      rw [← hcalls]
      decide +kernel
    have hlast : ∃ e ∈ es.getLast?, e.call.isAssembling = true := by
      rw [← hcalls]
      decide +kernel
    rw [hcalls, hx, hleft (by rw [hcreated]; decide)]
    obtain ⟨e, he, hassembling⟩ := hlast
    exact fun hall => Bool.false_ne_true ((hall e he).symm.trans hassembling)

end ShaderBindings.Binding
