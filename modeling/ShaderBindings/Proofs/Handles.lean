import ShaderBindings.GL.Call

/-!
# Handles

Which handles of programs and shaders events create, attach, detach and delete,
and which a call names. A handle that was deleted must not be named again.
-/

namespace ShaderBindings.GL

/-! ## Calls -/

namespace Call

/-- The program that a call names. -/
def program? : Call → Option Int
  | deleteProgram p | attachShader p _ | detachShader p _ | linkProgram p
  | linkStatus p | programInfoLog p | attributeCount p | uniformCount p
  | activeAttribute p .. | activeUniform p .. | attributeLocation p _
  | uniformLocation p _ | useProgram p => some p
  | _ => none

/-- The shader that a call names. -/
def shader? : Call → Option Int
  | shaderSource h _ | compileShader h | compileStatus h | shaderInfoLog h
  | attachShader _ h | detachShader _ h | deleteShader h => some h
  | _ => none

/-- The program that a reply brings. -/
def newProgram? : (call : Call) → call.Reply → Option Int
  | createProgram, p => some p
  | _, _ => none

/-- The shader that a reply brings. -/
def newShader? : (call : Call) → call.Reply → Option Int
  | createShader _, h => some h
  | _, _ => none

/-- The call takes something down. -/
def isRelease : Call → Bool
  | detachShader .. | deleteShader _ | deleteProgram _ => true
  | _ => false

/-- The call asks for the active variables of a program. -/
def isInspection : Call → Bool
  | attributeCount _ | uniformCount _ | activeAttribute .. | activeUniform .. =>
    true
  | _ => false

end Call

/-! ## Events -/

namespace Event

/-- The program that was created. -/
def programCreated? (e : Event) : Option Int :=
  match e.result with
  | .ok reply => e.call.newProgram? reply
  | .error _ => none

/-- The shader that was created. -/
def shaderCreated? (e : Event) : Option Int :=
  match e.result with
  | .ok reply => e.call.newShader? reply
  | .error _ => none

/-- A shader that was attached, after the program it was attached to. -/
def attached? (e : Event) : Option (Int × Int) :=
  match e.call, e.result with
  | .attachShader p h, .ok _ => some (p, h)
  | _, _ => none

/-- A shader that was to be detached, after the program. -/
def detached? (e : Event) : Option (Int × Int) :=
  match e.call with
  | .detachShader p h => some (p, h)
  | _ => none

/-- The shader that was to be deleted. -/
def shaderDeleted? (e : Event) : Option Int :=
  match e.call with
  | .deleteShader h => some h
  | _ => none

/-- The program that was to be deleted. -/
def programDeleted? (e : Event) : Option Int :=
  match e.call with
  | .deleteProgram p => some p
  | _ => none

/-- The event creates the shader, or names it. -/
def concerns (shader : Int) (e : Event) : Bool :=
  e.shaderCreated? == some shader || e.call.shader? == some shader

/-- A later event neither names nor creates what this one deletes. -/
def Spares (e later : Event) : Prop :=
  (∀ h, e.shaderDeleted? = some h →
    later.call.shader? ≠ some h ∧ later.shaderCreated? ≠ some h) ∧
  ∀ p, e.programDeleted? = some p →
    later.call.program? ≠ some p ∧ later.programCreated? ≠ some p

variable {e : Event}

theorem programCreated?_eq_none (h : e.call ≠ .createProgram) :
    e.programCreated? = none := by
  obtain ⟨call, result⟩ := e
  cases result with
  | error fault => rfl
  | ok reply => cases call <;> first | rfl | exact absurd rfl h

theorem shaderDeleted?_eq_none (h : e.call.isRelease = false) :
    e.shaderDeleted? = none := by
  obtain ⟨call, result⟩ := e
  cases call <;> first | rfl | cases h

theorem programDeleted?_eq_none (h : e.call.isRelease = false) :
    e.programDeleted? = none := by
  obtain ⟨call, result⟩ := e
  cases call <;> first | rfl | cases h

theorem detached?_eq_none (h : e.call.isRelease = false) :
    e.detached? = none := by
  obtain ⟨call, result⟩ := e
  cases call <;> first | rfl | cases h

/-- What takes nothing down spares every handle. -/
theorem spares_of_not_isRelease (h : e.call.isRelease = false)
    (later : Event) : e.Spares later := by
  simp [Spares, shaderDeleted?_eq_none h, programDeleted?_eq_none h]

theorem spares_of_inert {later : Event} (h : e.programDeleted? = none)
    (hshader : later.call.shader? = none)
    (hcreated : later.shaderCreated? = none) : e.Spares later := by
  simp [Spares, h, hshader, hcreated]

/-- Asking for active variables creates nothing, takes nothing down and names no
shader. -/
theorem inert_of_isInspection (h : e.call.isInspection = true) :
    e.programCreated? = none ∧ e.shaderCreated? = none ∧
      e.call.isRelease = false ∧ e.call.shader? = none := by
  obtain ⟨call, result⟩ := e
  cases result <;> cases call <;> first | exact ⟨rfl, rfl, rfl, rfl⟩ | cases h

end Event

/-! ## Lists of events -/

/-- The programs that were created, in order. -/
abbrev programsCreated (es : List Event) : List Int :=
  es.filterMap Event.programCreated?

/-- The shaders that were created, in order. -/
abbrev shadersCreated (es : List Event) : List Int :=
  es.filterMap Event.shaderCreated?

/-- The shaders that were attached, in order, each after its program. -/
abbrev attachments (es : List Event) : List (Int × Int) :=
  es.filterMap Event.attached?

/-- The shaders that were detached, in order, each after its program. -/
abbrev detachments (es : List Event) : List (Int × Int) :=
  es.filterMap Event.detached?

/-- The shaders that were deleted, in order. -/
abbrev shadersDeleted (es : List Event) : List Int :=
  es.filterMap Event.shaderDeleted?

/-- The programs that were deleted, in order. -/
abbrev programsDeleted (es : List Event) : List Int :=
  es.filterMap Event.programDeleted?

section Append

variable (es es' : List Event)

theorem programsCreated_append : programsCreated (es ++ es') =
    programsCreated es ++ programsCreated es' :=
  List.filterMap_append

theorem programsDeleted_append : programsDeleted (es ++ es') =
    programsDeleted es ++ programsDeleted es' :=
  List.filterMap_append

theorem shadersCreated_append : shadersCreated (es ++ es') =
    shadersCreated es ++ shadersCreated es' :=
  List.filterMap_append

theorem shadersDeleted_append : shadersDeleted (es ++ es') =
    shadersDeleted es ++ shadersDeleted es' :=
  List.filterMap_append

end Append

/-- Every handle that was created is deleted once, in the same order; and at
most one program is created. -/
structure Balanced (es : List Event) : Prop where
  programs : programsDeleted es = programsCreated es
  program : (programsCreated es).length ≤ 1
  shaders : shadersDeleted es = shadersCreated es
  /-- Shaders that are distinct are deleted after everything else that is done
  with them, and so is the program. -/
  spared : (shadersCreated es).Nodup → es.Pairwise Event.Spares

end ShaderBindings.GL
