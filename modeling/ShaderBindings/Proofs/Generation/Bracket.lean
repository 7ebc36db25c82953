import ShaderBindings.Proofs.Compilation.Release
import ShaderBindings.Proofs.Generation.Steps

/-!
# Generation — Bracket

A generation enters the context once and leaves it once, makes all its calls in
between, and has deleted by then whatever it created. That holds wherever it
fails, since the program has one owner at every moment: the compilation until it
ends without an error, and the examination from then on.
-/

namespace ShaderBindings.Generation

open Compilation (Ran Outcome Releases deletion)

variable {σ : Type} {stages : List Stage} {outcome : Outcome} {k : Record}
variable {es : List GL.Event}

/-! ## Balance -/

section Inspection

variable (h : ∀ e ∈ es, e.call.isInspection = true)
include h

theorem programsCreated_of_isInspection : GL.programsCreated es = [] :=
  List.filterMap_eq_nil_iff.mpr fun e he =>
    (GL.Event.inert_of_isInspection (h e he)).1

theorem shadersCreated_of_isInspection : GL.shadersCreated es = [] :=
  List.filterMap_eq_nil_iff.mpr fun e he =>
    (GL.Event.inert_of_isInspection (h e he)).2.1

theorem programsDeleted_of_isInspection : GL.programsDeleted es = [] :=
  List.filterMap_eq_nil_iff.mpr fun e he =>
    GL.Event.programDeleted?_eq_none
      (GL.Event.inert_of_isInspection (h e he)).2.2.1

theorem shadersDeleted_of_isInspection : GL.shadersDeleted es = [] :=
  List.filterMap_eq_nil_iff.mpr fun e he =>
    GL.Event.shaderDeleted?_eq_none
      (GL.Event.inert_of_isInspection (h e he)).2.2.1

/-- Neither the inspection of a program nor its deletion after that has to do
with a shader. -/
theorem shader?_of_isInspection (program : Int) :
    ∀ e ∈ es ++ [deletion program],
      e.call.shader? = none ∧ e.shaderCreated? = none := by
  intro e he
  obtain he | he := List.mem_append.mp he
  · obtain ⟨-, hcreated, -, hshader⟩ :=
      GL.Event.inert_of_isInspection (h e he)
    exact ⟨hshader, hcreated⟩
  · rw [List.mem_singleton.mp he]
    exact ⟨rfl, rfl⟩

/-- A program that is deleted after its inspection is deleted last. -/
theorem pairwise_of_isInspection (program : Int) :
    (es ++ [deletion program]).Pairwise GL.Event.Spares := by
  have hspares (e : GL.Event) (he : e ∈ es) (later : GL.Event) :
      e.Spares later :=
    GL.Event.spares_of_not_isRelease
      (GL.Event.inert_of_isInspection (h e he)).2.2.1 later
  refine List.pairwise_append.mpr ⟨?_, List.pairwise_singleton _ _, ?_⟩
  · exact List.pairwise_of_forall_mem_list fun e he e' _ => hspares e he e'
  · exact fun e he e' _ => hspares e he e'

end Inspection

theorem balanced_of_raised {e : Error} (h : Ran stages es (.error e)) :
    GL.Balanced es where
  programs := by
    obtain ⟨hc, hd⟩ | ⟨program, hc, hd, -⟩ := h.programs_of_error <;>
    rw [hc, hd]
  program := by
    obtain ⟨hc, -⟩ | ⟨program, hc, -, -⟩ := h.programs_of_error <;>
    simp [hc]
  shaders := h.shadersDeleted
  spared hnodup := (h.shadersReleased hnodup).spared

/-- A program that was given back is inspected and deleted. -/
theorem balanced_of_returned {es' : List GL.Event}
    (h : Ran stages es (.ok outcome))
    (hi : ∀ e ∈ es', e.call.isInspection = true) :
    GL.Balanced (es ++ (es' ++ [deletion outcome.program])) := by
  obtain ⟨hc, hd⟩ := h.programs_of_ok
  refine ⟨?_, ?_, ?_, fun hnodup => ?_⟩
  · simp only [List.filterMap_append, hc, hd,
      programsCreated_of_isInspection hi, programsDeleted_of_isInspection hi]
    rfl
  · simp only [List.filterMap_append, hc,
      programsCreated_of_isInspection hi]
    exact Nat.le_refl 1
  · simp only [List.filterMap_append, h.shadersDeleted,
      shadersCreated_of_isInspection hi, shadersDeleted_of_isInspection hi]
    rfl
  · simp only [List.filterMap_append] at hnodup
    refine List.pairwise_append.mpr
      ⟨(h.shadersReleased hnodup.of_append_left).spared,
        pairwise_of_isInspection hi _, fun e he e' he' => ?_⟩
    -- no program was deleted so far, and no shader is named any more
    obtain ⟨hshader, hcreated⟩ := shader?_of_isInspection hi _ e' he'
    exact GL.Event.spares_of_inert (List.filterMap_eq_nil_iff.mp hd e he)
      hshader hcreated

theorem Examined.balanced {r : Except Error Found} {k' : Record}
    (h : Examined stages k es r k') : GL.Balanced es := by
  cases h with
  | mixed hr => exact balanced_of_raised hr
  | failed hr => exact balanced_of_raised hr
  | inspected hr hi => exact balanced_of_returned hr hi.isInspection_of_mem

/-! ## Runs -/

/-- How a generation that starts in `s` treats the context. -/
inductive Bracketed (context : Context σ) (stages : List Stage)
    (s : Session σ) : Except Error String → Session σ → Prop
  /-- Without stages it is not entered. -/
  | noStages (h : stages = []) :
    Bracketed context stages s (.error .noStages) s
  /-- It cannot be entered, and nothing else is done. -/
  | notEntered {e : Error} {s' : Session σ} (h : stages ≠ [])
      (henter : context.enter s = (.error e, s')) :
    Bracketed context stages s (.error e) s'
  /-- It is entered, calls are made that leave nothing behind, and it is left;
  after that no call is made. -/
  | entered {window : Int} {s₁ s₂ s₃ s' : Session σ} {es : List GL.Event}
      {left : Except Error Unit} {r : Except Error String} (h : stages ≠ [])
      (henter : context.enter s = (.ok window, s₁))
      (hcalls : s₂.trace = s₁.trace ++ es.map .gl)
      (hbalanced : GL.Balanced es)
      (hleave : context.leave window s₂ = (left, s₃))
      (hafter : s'.trace = s₃.trace)
      (herror : ∀ e, left = .error e → r = .error e) :
    Bracketed context stages s r s'

/-- Every generation enters its context at most once and leaves it as often,
whatever fails in it. -/
theorem run_bracketed {gl : GL.Device σ} (hgl : Releases gl)
    (context : Context σ) (version : String) (stages : List Stage)
    (options : Options) (s : Session σ) (record : Record) :
    Bracketed context stages s
      (run gl context version stages options (s, record)).1
      (run gl context version stages options (s, record)).2.1 := by
  by_cases hne : stages = []
  · subst hne
    exact .noStages rfl
  · obtain ⟨r, s₁, henter⟩ : ∃ r s₁, context.enter s = (r, s₁) := ⟨_, _, rfl⟩
    cases r with
    | error e =>
      rw [run_notEntered gl version hne options henter]
      exact .notEntered hne henter
    | ok window =>
      obtain ⟨es, found, s₂, k, htrace, -, hexamined, hleft⟩ :=
        run_entered hgl version hne options henter record
      have hbalanced := hexamined.balanced
      generalize run gl context version stages options (s, record) = x at hleft
      cases hleft with
      | notLeft hleave =>
        exact .entered hne henter htrace hbalanced hleave rfl (by simp)
      | notFound hleave _ =>
        exact .entered hne henter htrace hbalanced hleave rfl (by simp)
      | emitted hleave _ hafter _ =>
        exact .entered hne henter htrace hbalanced hleave hafter (by simp)

/-- The device refuses to tell the uniform of a program. -/
theorem run_bracketed_refused :
    let gl := GL.Device.numbering (· matches .activeUniform ..)
      [(.text "tint", 0x8B52)]
    let context : Context Nat :=
      ⟨do Session.note "enter"; return 1, fun _ => Session.note "leave"⟩
    let stages : List Stage := [⟨"a.vert", .vertex, ""⟩]
    Bracketed context stages ⟨0, [], []⟩
      (.error (.external (.failed "glGetActiveUniform")))
      (run gl context "1.0" stages {} (⟨0, [], []⟩, {})).2.1 := by
  intro gl context stages
  have hgl : Releases gl := fun call h =>
    GL.Device.numbering_answers (by cases call <;> first | rfl | cases h)
  have hresult : (run gl context "1.0" stages {} (⟨0, [], []⟩, {})).1 =
      .error (.external (.failed "glGetActiveUniform")) := by
    decide +kernel
  exact hresult ▸ run_bracketed hgl context "1.0" stages {} ⟨0, [], []⟩ {}

end ShaderBindings.Generation
