import ShaderBindings.Proofs.Generation.Steps
import ShaderBindings.Proofs.Plan

/-!
# Generation — Outcome

What comes of a generation when nothing outside fails: a text exactly if kinds
go together and the device objects to nothing, and otherwise an error whose
place among the others is fixed. Earlier generations have no say in it.
-/

namespace ShaderBindings.Generation

open Compilation
open Introspection (variableOf attributeEvents uniformEvents)

variable {σ : Type} {version : String} {options : Options}
variable {stages : List Stage} {es : List GL.Event} {k : Record}

/-! ## Objections -/

/-- The answer keeps a module from being written: a stage was not compiled, the
program was not linked, or a uniform has no type. -/
def isObjection (e : GL.Event) : Bool :=
  match e with
  | ⟨.compileStatus _, .ok succeeded⟩ => !succeeded
  | ⟨.linkStatus _, .ok linked⟩ => !linked
  | ⟨.activeUniform .., .ok reply⟩ => Plan.isUntyped (variableOf reply)
  | _ => false

/-- None of the answers keeps a module from being written. -/
def Unobjected (es : List GL.Event) : Prop :=
  ∀ e ∈ es, isObjection e = false

theorem unobjected_append (es es' : List GL.Event) :
    Unobjected (es ++ es') ↔ Unobjected es ∧ Unobjected es' :=
  List.forall_mem_append

theorem unobjected_stageEvents {program : Int} {answers : List Answer}
    (hlength : answers.length = stages.length) :
    Unobjected (stageEvents program stages answers) ↔
      ∀ a ∈ answers, a.succeeded = true := by
  have hone (a : Answer) (stage : Stage) :
      Unobjected (a.events program stage) ↔ a.succeeded = true := by
    simp [Unobjected, Answer.events, isObjection]
  constructor
  · intro h a ha
    obtain ⟨stage, -, hmem⟩ := mem_stageEvents_of_mem hlength ha
    exact (hone a stage).mp fun e he => h e (hmem e he)
  · intro h e he
    obtain ⟨stage, a, ha, he⟩ := mem_stageEvents he
    exact (hone a stage).mpr (h a ha) e he

theorem unobjected_linkEvents (program : Int) (linked : Bool)
    (log : Option RawText) :
    Unobjected (linkEvents program linked log) ↔ linked = true := by
  simp [Unobjected, linkEvents, isObjection]

theorem unobjected_attributeEvents (program : Int)
    (replies : List (RawText × Int)) :
    Unobjected (attributeEvents program replies) :=
  List.forall_mem_cons.mpr
    ⟨rfl, Introspection.forall_mem_mapIdx fun _ _ => rfl⟩

theorem unobjected_uniformEvents (program : Int)
    (replies : List (RawText × Int)) :
    Unobjected (uniformEvents program replies) ↔
      ∀ u ∈ replies, Plan.isUntyped (variableOf u) = false := by
  constructor
  · intro h u hu
    obtain ⟨i, hi, rfl⟩ := List.mem_iff_getElem.mp hu
    exact h _ (List.mem_cons_of_mem _ (List.mem_mapIdx.mpr ⟨i, hi, rfl⟩))
  · intro h
    refine List.forall_mem_cons.mpr ⟨rfl, fun e he => ?_⟩
    obtain ⟨i, hi, rfl⟩ := List.mem_mapIdx.mp he
    exact h _ (List.getElem_mem hi)

/-! ## Outcomes -/

/-- The calls of a generation that has a program: it is built, the shaders are
released, and after it was inspected it is deleted. -/
def programEvents (program : Int) (building inspecting : List GL.Event) :
    List GL.Event :=
  ⟨.createProgram, .ok program⟩ :: withReleases program building ++
    (inspecting ++ [deletion program])

/-- The objections are among the answers to what is built and inspected. -/
theorem unobjected_programEvents {program : Int}
    {building inspecting : List GL.Event} :
    Unobjected (programEvents program building inspecting) ↔
      Unobjected building ∧ Unobjected inspecting := by
  have hrelease (held : Held) : Unobjected (held.releaseEvents program) := by
    intro e he
    obtain ⟨shader, -, rfl | rfl⟩ := held.mem_releaseEvents he <;> rfl
  have hcreate (es : List GL.Event) :
      Unobjected (⟨.createProgram, .ok program⟩ :: es) ↔ Unobjected es := by
    simp [Unobjected, isObjection]
  have hdelete : Unobjected [deletion program] := by
    simp [Unobjected, isObjection]
  simp only [programEvents, List.cons_append, hcreate, withReleases,
    unobjected_append, hrelease, hdelete, and_true]

/-- What comes of a generation by the calls that are answered, in the order in
which its errors take precedence. -/
inductive Generated (version : String) (options : Options)
    (stages : List Stage) :
    List GL.Event → Except Error String → Record → Prop
  /-- Kinds that do not go together, even after a stage was not compiled. -/
  | mixed {es : List GL.Event} {a b : StageKind}
      (h : mixing? none stages = some (a, b)) :
    Generated version options stages es (.error (.mixedStages a b))
      ⟨.compileFailed, none⟩
  /-- Stages that were not compiled: all of them are told, in order. -/
  | stagesFailed {program : Int} {answers : List Answer}
      (h : mixing? none stages = none)
      (hlength : answers.length = stages.length)
      (hfailed : ∃ a ∈ answers, a.succeeded = false) :
    Generated version options stages
      (programEvents program (stageEvents program stages answers) [])
      (.error (.stagesFailed
        ((outcomesOf stages answers).filter fun s => !s.succeeded)))
      ⟨.compileFailed, none⟩
  /-- A program that was not linked. -/
  | linkFailed {program : Int} {answers : List Answer} (log : Option RawText)
      (h : mixing? none stages = none)
      (hlength : answers.length = stages.length)
      (hanswers : ∀ a ∈ answers, a.succeeded = true) :
    Generated version options stages
      (programEvents program (stageEvents program stages answers ++
        linkEvents program false log) [])
      (.error (.linkFailed (GL.logText log))) ⟨.linkFailed, none⟩
  /-- A uniform without a type: the first one is told. -/
  | unsupported {program : Int} {answers : List Answer} (log : Option RawText)
      (attributes uniforms : List (RawText × Int)) {v : Variable}
      (h : mixing? none stages = none)
      (hlength : answers.length = stages.length)
      (hanswers : ∀ a ∈ answers, a.succeeded = true)
      (hfind : (uniforms.map variableOf).find? Plan.isUntyped = some v) :
    Generated version options stages
      (programEvents program (stageEvents program stages answers ++
        linkEvents program true log)
        (attributeEvents program attributes ++ uniformEvents program uniforms))
      (.error (.unsupportedType ⟨v.tag, some v.name⟩))
      ⟨.introspected, some (specOf options stages
        (uniforms.map variableOf, attributes.map variableOf))⟩
  /-- A module, of the variables that the device reported. -/
  | written {program : Int} {answers : List Answer} (log : Option RawText)
      (attributes uniforms : List (RawText × Int)) {text : String}
      (h : mixing? none stages = none)
      (hlength : answers.length = stages.length)
      (hanswers : ∀ a ∈ answers, a.succeeded = true)
      (htyped : ∀ u ∈ uniforms, Plan.isUntyped (variableOf u) = false)
      (htext : ModuleText.ofSpec version (specOf options stages
        (uniforms.map variableOf, attributes.map variableOf)) = .ok text) :
    Generated version options stages
      (programEvents program (stageEvents program stages answers ++
        linkEvents program true log)
        (attributeEvents program attributes ++ uniformEvents program uniforms))
      (.ok text)
      ⟨.emitted, some (specOf options stages
        (uniforms.map variableOf, attributes.map variableOf))⟩

/-! ## Success -/

/-- A text is the outcome exactly if nothing is in the way of it. -/
theorem Generated.ok_iff {r : Except Error String}
    (h : Generated version options stages es r k) :
    (∃ text, r = .ok text) ↔
      mixing? none stages = none ∧ Unobjected es := by
  cases h with
  | mixed h => simp [h]
  | stagesFailed h hlength hfailed =>
    obtain ⟨a, ha, hfalse⟩ := hfailed
    rw [unobjected_programEvents, unobjected_stageEvents hlength]
    constructor
    · rintro ⟨text, ⟨⟩⟩
    · rintro ⟨-, hanswers, -⟩
      rw [hanswers a ha] at hfalse
      cases hfalse
  | linkFailed log h hlength hanswers =>
    rw [unobjected_programEvents, unobjected_append, unobjected_linkEvents]
    simp
  | unsupported log attributes uniforms h hlength hanswers hfind =>
    rw [unobjected_programEvents, unobjected_append, unobjected_append,
      unobjected_uniformEvents]
    constructor
    · rintro ⟨text, ⟨⟩⟩
    · rintro ⟨-, -, -, htyped⟩
      obtain ⟨u, hu, rfl⟩ := List.mem_map.mp (List.mem_of_find?_eq_some hfind)
      have huntyped := List.find?_some hfind
      rw [htyped u hu] at huntyped
      cases huntyped
  | written log attributes uniforms h hlength hanswers htyped htext =>
    rw [unobjected_programEvents, unobjected_append, unobjected_append,
      unobjected_stageEvents hlength, unobjected_linkEvents,
      unobjected_uniformEvents]
    refine ⟨fun _ => ⟨h, ⟨hanswers, rfl⟩, ?_, htyped⟩, fun _ => ⟨_, rfl⟩⟩
    exact unobjected_attributeEvents _ _

/-! ## Runs -/

theorem ofSpec_eq_error_iff (version : String) (spec : Spec)
    (fault : UnsupportedType) :
    ModuleText.ofSpec version spec = .error fault ↔
      ∃ v, spec.uniforms.find? Plan.isUntyped = some v ∧
        fault = ⟨v.tag, some v.name⟩ := by
  rw [← Plan.ofSpec_eq_error_iff, ModuleText.ofSpec]
  cases Plan.ofSpec spec <;> simp [Except.map]

/-- A program whose stages were compiled and linked. -/
theorem generated_of_answered {program : Int} {answers : List Answer}
    {r : Except Error String} (log : Option RawText)
    (attributes uniforms : List (RawText × Int))
    (h : mixing? none stages = none)
    (hlength : answers.length = stages.length)
    (hanswers : ∀ a ∈ answers, a.succeeded = true)
    (he : Emitted version (specOf options stages
      (uniforms.map variableOf, attributes.map variableOf))
      ⟨.introspected, none⟩ r k) :
    Generated version options stages
      (programEvents program (stageEvents program stages answers ++
        linkEvents program true log)
        (attributeEvents program attributes ++ uniformEvents program uniforms))
      r k := by
  cases he with
  | unsupported herror =>
    obtain ⟨v, hfind, rfl⟩ := (ofSpec_eq_error_iff _ _ _).mp herror
    exact .unsupported log attributes uniforms h hlength hanswers hfind
  | written htext =>
    refine .written log attributes uniforms h hlength hanswers ?_ htext
    have hnone : (uniforms.map variableOf).find? Plan.isUntyped = none := by
      cases hfind : (uniforms.map variableOf).find? Plan.isUntyped with
      | none => rfl
      | some v =>
        have herror := (ofSpec_eq_error_iff version (specOf options stages
          (uniforms.map variableOf, attributes.map variableOf)) _).mpr
            ⟨v, hfind, rfl⟩
        rw [herror] at htext
        cases htext
    intro u hu
    simpa using List.find?_eq_none.mp hnone _ (List.mem_map_of_mem hu)

/-- What is found by inspecting a program that was given back. -/
theorem generated_of_inspected {outcome : Compilation.Outcome}
    {es' : List GL.Event} {found : Except Error Found} {progress : Progress}
    (hr : Ran stages es (.ok outcome))
    (hi : Inspected outcome es' found progress) (hfaults : GL.faults es' = []) :
    (∃ e, found = .error e ∧
      Generated version options stages
        (es ++ (es' ++ [deletion outcome.program])) (.error e)
        ⟨progress, none⟩) ∨
    ∃ f, found = .ok f ∧ ∀ r k,
      Emitted version (specOf options stages f) ⟨progress, none⟩ r k →
        Generated version options stages
          (es ++ (es' ++ [deletion outcome.program])) r k := by
  obtain ⟨-, hmixing⟩ := hr.cause
  cases hr with
  | @returned program built _ hb =>
    cases hb with
    | linked hs hall hl =>
      obtain ⟨answers, hlength, rfl, rfl⟩ := hs.answers
      have hanswers : ∀ a ∈ answers, a.succeeded = true := by
        rw [all_outcomesOf hlength] at hall
        exact List.all_eq_true.mp hall
      cases hl with
      | answered linked log =>
        cases hi with
        | notCompiled h =>
          rw [Compilation.Outcome.compiled, hall] at h
          cases h
        | notLinked _ hl =>
          cases hl
          exact .inl ⟨_, rfl, .linkFailed log hmixing hlength hanswers⟩
        | answered _ hl attributes uniforms =>
          cases hl
          exact .inr ⟨_, rfl, fun r k he => generated_of_answered log attributes
            uniforms hmixing hlength hanswers he⟩
        | failed _ _ hbroken =>
          obtain ⟨fault, hfault, -, -⟩ := hbroken
          rw [hfault] at hfaults
          cases hfaults
    | notLinked hs hall =>
      obtain ⟨answers, hlength, rfl, rfl⟩ := hs.answers
      cases hi with
      | notCompiled _ =>
        rw [all_outcomesOf hlength] at hall
        exact .inl ⟨_, rfl,
          .stagesFailed hmixing hlength (by simpa using hall)⟩
      | notLinked h _ | answered h _ _ _ | failed h _ _ =>
        rw [Compilation.Outcome.compiled, hall] at h
        cases h

/-- What is examined without a fault comes to one of the outcomes. -/
theorem generated_of_examined (version : String) (options : Options)
    {found : Except Error Found}
    (hexamined : Examined stages ⟨.stagesLoaded, none⟩ es found k)
    (hfaults : GL.faults es = []) :
    (∃ e, found = .error e ∧
      Generated version options stages es (.error e) k) ∨
    ∃ f, found = .ok f ∧ ∀ r k',
      Emitted version (specOf options stages f) k r k' →
        Generated version options stages es r k' := by
  cases hexamined with
  | mixed hr =>
    obtain ⟨fault, -, ⟨⟩⟩ | ⟨a, b, -, hmixing, ⟨⟩⟩ := hr.cause
    exact .inl ⟨_, rfl, .mixed hmixing⟩
  | failed hr =>
    obtain ⟨fault, hfault, -⟩ | ⟨a, b, -, -, ⟨⟩⟩ := hr.cause
    rw [hfault] at hfaults
    cases hfaults
  | inspected hr hi =>
    refine generated_of_inspected hr hi ?_
    simp only [GL.faults_append, List.append_eq_nil_iff] at hfaults
    exact hfaults.2.1

/-- Leaving the context without a fault adds nothing but the module. -/
theorem generated_of_left {context : Context σ} {window : Int}
    {s s₃ s' : Session σ} {found : Except Error Found}
    {r : Except Error String} {k' : Record}
    (hexamined : Examined stages ⟨.stagesLoaded, none⟩ es found k)
    (hfaults : GL.faults es = [])
    (hleave : context.leave window s = (.ok (), s₃))
    (hleft : Left context version options stages window s found k (r, s', k')) :
    s'.trace = s₃.trace ∧ Generated version options stages es r k' := by
  have hgenerated := generated_of_examined version options hexamined hfaults
  cases hleft with
  | notLeft h =>
    rw [hleave] at h
    cases h
  | notFound h he =>
    rw [hleave] at h
    cases h
    obtain ⟨e, rfl, hgen⟩ | ⟨f, rfl, -⟩ := hgenerated
    · cases he
      exact ⟨rfl, hgen⟩
    · cases he
  | emitted h hf htrace he =>
    rw [hleave] at h
    cases h
    obtain ⟨e, rfl, -⟩ | ⟨f, rfl, hgen⟩ := hgenerated
    · cases hf
    · cases hf
      exact ⟨htrace, hgen _ _ he⟩

/-- If nothing outside fails, a generation comes to the outcome that the kinds
of the stages and the answers of the device decide, whatever was recorded of
earlier ones. It gives a text exactly if either all stages are compute stages or
none is, and none of the answers is an objection. -/
theorem run_outcome {gl : GL.Device σ} (hgl : ∀ call, gl.Answers call)
    {context : Context σ} {s s₁ : Session σ} {window : Int}
    (henter : context.enter s = (.ok window, s₁))
    (hleave : ∀ s, ∃ s', context.leave window s = (.ok (), s'))
    (version : String) (hne : stages ≠ []) (options : Options)
    (record : Record) :
    ∃ es s₂ r s' k,
      run gl context version stages options (s, record) = (r, s', k) ∧
      s₂.trace = s₁.trace ++ es.map .gl ∧
      s'.trace = (context.leave window s₂).2.trace ∧
      Generated version options stages es r k ∧
      ((∃ text, r = .ok text) ↔
        ((∀ s ∈ stages, s.kind = .compute) ∨
          ∀ s ∈ stages, s.kind ≠ .compute) ∧ Unobjected es) := by
  obtain ⟨es, found, s₂, k, htrace, hgiven, hexamined, hleft⟩ :=
    run_entered (fun call _ => hgl call) version hne options henter record
  have hfaults := GL.Device.faults_eq_nil hgl hgiven
  obtain ⟨r, s', k', hrun⟩ : ∃ r s' k',
      run gl context version stages options (s, record) = (r, s', k') :=
    ⟨_, _, _, rfl⟩
  rw [hrun] at hleft
  obtain ⟨s₃, hs₃⟩ := hleave s₂
  obtain ⟨hdone, hgen⟩ := generated_of_left hexamined hfaults hs₃ hleft
  refine ⟨es, s₂, r, s', k', hrun, htrace, ?_, hgen, ?_⟩
  · rw [hs₃]
    exact hdone
  · rw [hgen.ok_iff, mixing?_eq_none_iff]

/-- A uniform that is an image is told after a generation that went well. -/
theorem run_outcome_image :
    let gl := GL.Device.numbering (fun _ => false) [(.text "canvas", 0x904C)]
    let context : Context Nat :=
      ⟨do Session.note "enter"; return 1, fun _ => Session.note "leave"⟩
    let stages : List Stage := [⟨"a.vert", .vertex, ""⟩]
    ∃ es s' k,
      run gl context "1.0" stages {} (⟨0, [], []⟩, ⟨.emitted, none⟩) =
        (.error (.unsupportedType ⟨0x904C, some "canvas"⟩), s', k) ∧
      Generated "1.0" {} stages es
        (.error (.unsupportedType ⟨0x904C, some "canvas"⟩)) k ∧
      ¬ Unobjected es := by
  intro gl context stages
  have hgl (call : GL.Call) : gl.Answers call :=
    GL.Device.numbering_answers rfl
  have henter : context.enter ⟨0, [], []⟩ =
      (.ok 1, ⟨0, [.note "enter"], []⟩) := rfl
  have hne : stages ≠ [] := List.cons_ne_nil _ _
  obtain ⟨es, s₂, r, s', k, hrun, -, -, hgen, hok⟩ := run_outcome hgl henter
    (fun s => ⟨_, rfl⟩) "1.0" hne {} ⟨.emitted, none⟩
  have hresult : (run gl context "1.0" stages {}
      (⟨0, [], []⟩, ⟨.emitted, none⟩)).1 =
        .error (.unsupportedType ⟨0x904C, some "canvas"⟩) := by
    decide +kernel
  rw [hrun] at hresult
  subst hresult
  refine ⟨es, s', k, hrun, hgen, fun h => ?_⟩
  obtain ⟨text, ⟨⟩⟩ := hok.mpr ⟨.inr (by decide), h⟩

end ShaderBindings.Generation
