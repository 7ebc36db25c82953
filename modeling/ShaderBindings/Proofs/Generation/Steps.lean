import ShaderBindings.Generation
import ShaderBindings.Proofs.Compilation.Release
import ShaderBindings.Proofs.Introspection

/-!
# Generation — Steps

What happens between entering the context and leaving it: a program is made of
the stages, asked for its variables, and deleted. After the context is left, a
module is written if variables were found. The record keeps how far that came.
-/

namespace ShaderBindings.Generation

open Compilation (Ran Outcome Releases deletion)

variable {σ : Type} {stages : List Stage} {outcome : Outcome} {k : Record}
variable {es : List GL.Event}

/-! ## Inspecting -/

/-- What is found out about a program. -/
abbrev Found := List Variable × List Variable

/-- How a program is inspected, and how far the generation comes thereby. -/
inductive Inspected (outcome : Outcome) :
    List GL.Event → Except Error Found → Progress → Prop
  | notCompiled (h : outcome.compiled = false) :
    Inspected outcome [] (.error (.stagesFailed outcome.failures))
      .compileFailed
  | notLinked (h : outcome.compiled = true) (hl : outcome.linked = false) :
    Inspected outcome [] (.error (.linkFailed outcome.linkLog)) .linkFailed
  | answered (h : outcome.compiled = true) (hl : outcome.linked = true)
      (attributes uniforms : List (RawText × Int)) :
    Inspected outcome
      (Introspection.attributeEvents outcome.program attributes ++
        Introspection.uniformEvents outcome.program uniforms)
      (.ok (uniforms.map Introspection.variableOf,
        attributes.map Introspection.variableOf)) .introspected
  | failed {es : List GL.Event} {r : Except Error Found}
      (h : outcome.compiled = true) (hl : outcome.linked = true)
      (hbroken : Act.BrokenOff GL.Call.isInspection es r) :
    Inspected outcome es r .linked

theorem Inspected.isInspection_of_mem {r : Except Error Found}
    {progress : Progress} (h : Inspected outcome es r progress) :
    ∀ e ∈ es, e.call.isInspection = true := by
  cases h with
  | notCompiled _ | notLinked _ _ => simp
  | answered _ _ attributes uniforms =>
    intro e he
    exact (List.mem_append.mp he).elim
      (Introspection.isInspection_of_mem_attributeEvents e)
      (Introspection.isInspection_of_mem_uniformEvents e)
  | failed _ _ hbroken =>
    obtain ⟨_, _, hcalls, _⟩ := hbroken
    exact hcalls

theorem inspect_makes (gl : GL.Device σ) (outcome : Outcome) (k : Record) :
    (inspect gl outcome).Makes gl k fun es r k' => ∃ progress,
      Inspected outcome es r progress ∧ k' = { k with progress } := by
  unfold inspect
  cases h : outcome.compiled with
  | false => exact .modify_bind (.fail ⟨_, .notCompiled h, rfl⟩)
  | true =>
    refine .modify_bind ?_
    cases hl : outcome.linked with
    | false =>
      exact .modify_bind (.write_bind (.fail ⟨_, .notLinked h hl, rfl⟩))
    | true =>
      refine .modify_bind (.bind (Introspection.run_makes gl) ?_ ?_)
      · rintro es _ k' ⟨rfl, ⟨attributes, uniforms, rfl, ⟨⟩⟩ | ⟨_, -, -, ⟨⟩⟩⟩
        refine .modify_bind (.pure ⟨_, ?_, rfl⟩)
        rw [List.append_nil]
        exact .answered h hl attributes uniforms
      · rintro es e k' ⟨rfl, ⟨_, _, -, ⟨⟩⟩ | hbroken⟩
        exact ⟨_, .failed h hl hbroken.of_error, rfl⟩

/-! ## The whole examination -/

/-- How stages are examined, and what is recorded of it. -/
inductive Examined (stages : List Stage) (k : Record) :
    List GL.Event → Except Error Found → Record → Prop
  | mixed {es : List GL.Event} {a b : StageKind}
      (h : Ran stages es (.error (.mixedStages a b))) :
    Examined stages k es (.error (.mixedStages a b))
      { k with progress := .compileFailed }
  | failed {es : List GL.Event} {fault : ExternalFault}
      (h : Ran stages es (.error (.external fault))) :
    Examined stages k es (.error (.external fault)) k
  | inspected {es es' : List GL.Event} {outcome : Outcome}
      {r : Except Error Found} {progress : Progress}
      (h : Ran stages es (.ok outcome))
      (hi : Inspected outcome es' r progress) :
    Examined stages k (es ++ (es' ++ [deletion outcome.program])) r
      { k with progress }

theorem compile_makes {gl : GL.Device σ} (hgl : Releases gl)
    (hne : stages ≠ []) (k : Record) :
    (compile gl stages).Makes gl k fun es r k' =>
      match r with
      | .ok outcome => Ran stages es (.ok outcome) ∧ k' = k
      | .error e => Examined stages k es (.error e) k' := by
  unfold compile
  refine .attempt_bind (Compilation.run_makes hgl hne) ?_
  rintro es r k' ⟨hr, rfl⟩
  cases r with
  | ok outcome => exact .pure (by simpa using hr)
  | error e =>
    obtain ⟨fault, -, rfl⟩ | ⟨a, b, -, -, rfl⟩ := hr.cause
    · exact .fail (by simpa using .failed hr)
    · exact .modify_bind (.fail (by simpa using .mixed hr))

theorem examine_makes {gl : GL.Device σ} (hgl : Releases gl)
    (hne : stages ≠ []) (k : Record) :
    (examine gl stages).Makes gl k (Examined stages k) := by
  unfold examine
  refine .bind (compile_makes hgl hne k) ?_ fun es e k' h => h
  rintro es outcome k' ⟨hr, rfl⟩
  refine .ensuring (inspect_makes gl outcome k') ?_
  rintro es' r _ ⟨progress, hi, rfl⟩
  refine .perform (fun _ => ⟨rfl, .inspected hr hi⟩) fun _ hf => ?_
  exact ((hgl _ rfl).not_error hf).elim

/-! ## Writing the module -/

/-- The specification of what was found. -/
def specOf (options : Options) (stages : List Stage) (found : Found) : Spec :=
  { options, stages, uniforms := found.1, attributes := found.2 }

/-- Writes the module for what was found. -/
def emit (version : String) (stages : List Stage) (options : Options)
    (found : Found) : Act (Session σ × Record) String := do
  let spec := specOf options stages found
  Act.onSecond (Act.modify fun r => { r with spec := some spec })
  match ModuleText.ofSpec version spec with
  | .error fault => Act.fail (.unsupportedType fault)
  | .ok text =>
    reach .emitted
    Act.onFirst
      (Session.info s!"Generated {ModuleText.qualifiedName options}")
    return text

/-- How a module is written, and what is recorded of it. -/
inductive Emitted (version : String) (spec : Spec) (k : Record) :
    Except Error String → Record → Prop
  | unsupported {fault : UnsupportedType}
      (h : ModuleText.ofSpec version spec = .error fault) :
    Emitted version spec k (.error (.unsupportedType fault))
      { k with spec := some spec }
  | written {text : String} (h : ModuleText.ofSpec version spec = .ok text) :
    Emitted version spec k (.ok text) ⟨.emitted, some spec⟩

theorem emit_makes (gl : GL.Device σ) (version : String) (options : Options)
    (found : Found) (k : Record) :
    (emit version stages options found).Makes gl k fun es r k' =>
      es = [] ∧ Emitted version (specOf options stages found) k r k' := by
  unfold emit
  refine .modify_bind ?_
  cases h : ModuleText.ofSpec version (specOf options stages found) with
  | error fault => exact .fail ⟨rfl, .unsupported h⟩
  | ok text => exact .modify_bind (.write_bind (.pure ⟨rfl, .written h⟩))

/-! ## The whole generation -/

/-- A generation from stages is an examination within the context, and writing
the module. -/
theorem run_eq (gl : GL.Device σ) (context : Context σ) (version : String)
    (hne : stages ≠ []) (options : Options) (s : Session σ) (record : Record) :
    run gl context version stages options (s, record) =
      (do
        let window ← Act.onFirst context.enter
        let found ← Act.ensuring (examine gl stages)
          (Act.onFirst (context.leave window))
        emit version stages options found :
          Act (Session σ × Record) String) (s, ⟨.stagesLoaded, none⟩) := by
  have hempty : stages.isEmpty = false := by simpa using hne
  simp only [run, hempty]
  rfl

theorem run_notEntered (gl : GL.Device σ) {context : Context σ}
    (version : String) (hne : stages ≠ []) (options : Options)
    {s s₁ : Session σ} {e : Error} (henter : context.enter s = (.error e, s₁))
    (record : Record) :
    run gl context version stages options (s, record) =
      (.error e, s₁, ⟨.stagesLoaded, none⟩) := by
  rw [run_eq gl context version hne]
  simp only [Bind.bind, Act.bind, Act.onFirst, henter]

/-- How a generation ends that has left the context. -/
inductive Left (context : Context σ) (version : String) (options : Options)
    (stages : List Stage) (window : Int) (s : Session σ)
    (found : Except Error Found) (k : Record) :
    Except Error String × Session σ × Record → Prop
  | notLeft {e : Error} {s' : Session σ}
      (h : context.leave window s = (.error e, s')) :
    Left context version options stages window s found k (.error e, s', k)
  | notFound {e : Error} {s' : Session σ}
      (h : context.leave window s = (.ok (), s')) (he : found = .error e) :
    Left context version options stages window s found k (.error e, s', k)
  | emitted {f : Found} {s' s'' : Session σ} {r : Except Error String}
      {k' : Record} (h : context.leave window s = (.ok (), s'))
      (hf : found = .ok f) (htrace : s''.trace = s'.trace)
      (he : Emitted version (specOf options stages f) k r k') :
    Left context version options stages window s found k (r, s'', k')

theorem run_entered {gl : GL.Device σ} (hgl : Releases gl)
    {context : Context σ} (version : String) (hne : stages ≠ [])
    (options : Options) {s s₁ : Session σ} {window : Int}
    (henter : context.enter s = (.ok window, s₁)) (record : Record) :
    ∃ es found s₂ k, s₂.trace = s₁.trace ++ es.map .gl ∧
      (∀ e ∈ es, gl.Gives e) ∧
      Examined stages ⟨.stagesLoaded, none⟩ es found k ∧
      Left context version options stages window s₂ found k
        (run gl context version stages options (s, record)) := by
  obtain ⟨es, found, s₂, k, hrun, htrace, hgiven, hexamined⟩ :=
    examine_makes hgl hne ⟨.stagesLoaded, none⟩ s₁
  refine ⟨es, found, s₂, k, htrace, hgiven, hexamined, ?_⟩
  rw [run_eq gl context version hne]
  obtain ⟨r', s₃, hleave⟩ : ∃ r' s₃, context.leave window s₂ = (r', s₃) :=
    ⟨_, _, rfl⟩
  simp only [Bind.bind, Act.bind, Act.onFirst, henter, Act.ensuring, hrun,
    hleave]
  cases r' with
  | error e => exact .notLeft hleave
  | ok _ =>
    cases hfound : found with
    | error e => exact .notFound hleave rfl
    | ok f =>
      obtain ⟨es', r, s₄, k', hrun', htrace', -, rfl, hemit⟩ :=
        emit_makes gl version options f k s₃
      show Left context version options stages window s₂ (.ok f) k
        (emit version stages options f (s₃, k))
      rw [hrun']
      exact .emitted hleave rfl (by simpa using htrace') hemit

end ShaderBindings.Generation
