import Mathlib.Data.List.Nodup
import ShaderBindings.Proofs.Compilation.Program

/-!
# Compilation — Release

No shader outlives a compilation, whatever fails in it, and no program outlives
one that ends with an error. `Released` says how handles are given back, and
`run_releases` that they are.
-/

namespace ShaderBindings.Compilation

variable {σ : Type} {program : Int} {stages : List Stage} {held : Held}
variable {es : List GL.Event} {r : Except Error Outcome}

/-! ## Calls that build -/

section Building

variable (h : ∀ e ∈ es, isBuilding e.call = true)
include h

theorem programsCreated_of_isBuilding :
    GL.programsCreated es = [] :=
  List.filterMap_eq_nil_iff.mpr fun e he =>
    GL.Event.programCreated?_eq_none (ne_createProgram_of_isBuilding (h e he))

theorem programsDeleted_of_isBuilding :
    GL.programsDeleted es = [] :=
  List.filterMap_eq_nil_iff.mpr fun e he =>
    GL.Event.programDeleted?_eq_none (isRelease_of_isBuilding (h e he))

theorem shadersDeleted_of_isBuilding :
    GL.shadersDeleted es = [] :=
  List.filterMap_eq_nil_iff.mpr fun e he =>
    GL.Event.shaderDeleted?_eq_none (isRelease_of_isBuilding (h e he))

theorem detached_of_isBuilding : GL.detachments es = [] :=
  List.filterMap_eq_nil_iff.mpr fun e he =>
    GL.Event.detached?_eq_none (isRelease_of_isBuilding (h e he))

end Building

/-! ## Calls that release -/

theorem mem_takeDown {attached : List Int} {shader : Int} {e : GL.Event}
    (h : e ∈ takeDown program attached shader) :
    e = ⟨.detachShader program shader, .ok ()⟩ ∨
      e = ⟨.deleteShader shader, .ok ()⟩ := by
  unfold takeDown at h
  split at h <;> simp_all

theorem Held.mem_releaseEvents {e : GL.Event}
    (h : e ∈ held.releaseEvents program) :
    ∃ shader ∈ held.created, e = ⟨.detachShader program shader, .ok ()⟩ ∨
      e = ⟨.deleteShader shader, .ok ()⟩ := by
  obtain ⟨shader, hshader, he⟩ := List.mem_flatMap.mp h
  exact ⟨shader, hshader, mem_takeDown he⟩

/-- Releasing neither creates nor attaches anything, and deletes no program. -/
theorem Held.filterMap_releaseEvents {α : Type} {f : GL.Event → Option α}
    (hdetach : ∀ h, f ⟨.detachShader program h, .ok ()⟩ = none)
    (hdelete : ∀ h, f ⟨.deleteShader h, .ok ()⟩ = none) :
    (held.releaseEvents program).filterMap f = [] := by
  refine List.filterMap_eq_nil_iff.mpr fun e he => ?_
  obtain ⟨shader, -, rfl | rfl⟩ := held.mem_releaseEvents he
  · exact hdetach shader
  · exact hdelete shader

theorem Held.shadersDeleted_releaseEvents :
    GL.shadersDeleted (held.releaseEvents program) =
      held.created := by
  have hone (shader : Int) :
      GL.shadersDeleted (takeDown program held.attached shader) = [shader] := by
    unfold takeDown
    split <;> rfl
  simp [Held.releaseEvents, List.filterMap_flatMap, hone]

theorem Held.detached_releaseEvents :
    GL.detachments (held.releaseEvents program) =
      (held.created.filter (· ∈ held.attached)).map (program, ·) := by
  unfold Held.releaseEvents
  induction held.created with
  | nil => rfl
  | cons shader rest ih =>
    simp only [List.flatMap_cons, List.filterMap_append, ih]
    by_cases h : shader ∈ held.attached
    · simp [takeDown, h, List.filterMap_cons, GL.Event.detached?]
    · simp [takeDown, h, GL.Event.detached?]

/-- What was released is not named again. -/
theorem Held.pairwise_releaseEvents (h : held.created.Nodup) :
    (held.releaseEvents program).Pairwise GL.Event.Spares := by
  refine List.pairwise_flatMap.mpr ⟨fun shader _ => ?_, ?_⟩
  · unfold takeDown
    split <;> simp [GL.Event.Spares, GL.Event.shaderDeleted?,
      GL.Event.programDeleted?]
  · refine h.imp fun {a b} hab e he e' he' => ?_
    obtain rfl | rfl := mem_takeDown he <;>
    obtain rfl | rfl := mem_takeDown he' <;>
    simp [GL.Event.Spares, GL.Event.shaderDeleted?, GL.Event.programDeleted?,
      GL.Call.shader?, GL.Event.shaderCreated?, GL.Call.newShader?, Ne.symm hab]

/-! ## Handles of a run -/

/-- Releasing adds nothing but detachments and deletions of shaders. -/
theorem filterMap_withReleases {α : Type} {f : GL.Event → Option α}
    (hdetach : ∀ h, f ⟨.detachShader program h, .ok ()⟩ = none)
    (hdelete : ∀ h, f ⟨.deleteShader h, .ok ()⟩ = none) :
    (withReleases program es).filterMap f = es.filterMap f := by
  rw [withReleases, List.filterMap_append,
    Held.filterMap_releaseEvents hdetach hdelete, List.append_nil]

theorem shadersCreated_withReleases :
    GL.shadersCreated (withReleases program es) = GL.shadersCreated es :=
  filterMap_withReleases (fun _ => rfl) fun _ => rfl

theorem attachments_withReleases :
    GL.attachments (withReleases program es) = GL.attachments es :=
  filterMap_withReleases (fun _ => rfl) fun _ => rfl

theorem faults_withReleases :
    GL.faults (withReleases program es) = GL.faults es :=
  filterMap_withReleases (fun _ => rfl) fun _ => rfl

section WithReleases

variable (h : ∀ e ∈ es, isBuilding e.call = true)
include h

theorem programsCreated_withReleases :
    GL.programsCreated (withReleases program es) = [] :=
  (filterMap_withReleases (fun _ => rfl) fun _ => rfl).trans
    (programsCreated_of_isBuilding h)

theorem programsDeleted_withReleases :
    GL.programsDeleted (withReleases program es) = [] :=
  (filterMap_withReleases (fun _ => rfl) fun _ => rfl).trans
    (programsDeleted_of_isBuilding h)

theorem shadersDeleted_withReleases :
    GL.shadersDeleted (withReleases program es) = GL.shadersCreated es := by
  simp only [withReleases, List.filterMap_append,
    shadersDeleted_of_isBuilding h, Held.shadersDeleted_releaseEvents]
  simp [Held.after]

/-- What was attached has been detached once, and nothing else. -/
theorem count_detachments_withReleases (hown : AttachesOwn program es)
    (hnodup : (GL.shadersCreated es).Nodup) (q : Int × Int) :
    (GL.detachments (withReleases program es)).count q =
      if q ∈ GL.attachments es then 1 else 0 := by
  have hlist : GL.detachments (withReleases program es) =
      ((GL.shadersCreated es).filter
        (· ∈ (GL.attachments es).map Prod.snd)).map (program, ·) := by
    simp only [withReleases, List.filterMap_append, detached_of_isBuilding h,
      Held.detached_releaseEvents]
    rfl
  have hmem : q ∈ GL.detachments (withReleases program es) ↔
      q ∈ GL.attachments es := by
    rw [hlist]
    constructor
    · simp only [List.mem_map, List.mem_filter, decide_eq_true_eq]
      rintro ⟨shader, ⟨-, q', hq', rfl⟩, rfl⟩
      rwa [← (hown q' hq').1]
    · intro hq
      obtain ⟨hprogram, hcreated⟩ := hown q hq
      refine List.mem_map.mpr ⟨q.2, List.mem_filter.mpr ⟨hcreated, ?_⟩, ?_⟩
      · exact decide_eq_true (List.mem_map.mpr ⟨q, hq, rfl⟩)
      · rw [← hprogram]
  have hnodup' : (GL.detachments (withReleases program es)).Nodup := by
    rw [hlist]
    exact (hnodup.filter _).map fun a b h => (Prod.mk.inj h).2
  by_cases hq : q ∈ GL.attachments es
  · rw [if_pos hq, List.count_eq_one_of_mem hnodup' (hmem.mpr hq)]
  · rw [if_neg hq, List.count_eq_zero_of_not_mem fun hq' => hq (hmem.mp hq')]

/-- No shader is named after it was deleted. -/
theorem pairwise_withReleases (hnodup : (GL.shadersCreated es).Nodup) :
    (withReleases program es).Pairwise GL.Event.Spares := by
  refine List.pairwise_append.mpr ⟨?_, ?_, ?_⟩
  · exact List.pairwise_of_forall_mem_list fun e he e' _ =>
      GL.Event.spares_of_not_isRelease (isRelease_of_isBuilding (h e he)) e'
  · exact Held.pairwise_releaseEvents (by simpa [Held.after] using hnodup)
  · exact fun e he e' _ =>
      GL.Event.spares_of_not_isRelease (isRelease_of_isBuilding (h e he)) e'

end WithReleases

/-! ## Runs -/

/-- How events give back the shaders that they took. -/
structure ShadersReleased (es : List GL.Event) : Prop where
  /-- The shaders that were created are deleted once each, and no others. -/
  deleted : ∀ shader, (GL.shadersDeleted es).count shader =
    if shader ∈ GL.shadersCreated es then 1 else 0
  /-- The shaders that were attached are detached once each, and no others. -/
  detached : ∀ q, (GL.detachments es).count q =
    if q ∈ GL.attachments es then 1 else 0
  /-- No handle is named or created after its deletion; so it has been created
  before, and a shader detached. -/
  spared : es.Pairwise GL.Event.Spares

theorem shadersReleased_withReleases (h : ∀ e ∈ es, isBuilding e.call = true)
    (hown : AttachesOwn program es) (hnodup : (GL.shadersCreated es).Nodup) :
    ShadersReleased (withReleases program es) where
  deleted shader := by
    rw [shadersDeleted_withReleases h, shadersCreated_withReleases]
    by_cases hs : shader ∈ GL.shadersCreated es
    · rw [if_pos hs, List.count_eq_one_of_mem hnodup hs]
    · rw [if_neg hs, List.count_eq_zero_of_not_mem hs]
  detached q := by
    rw [attachments_withReleases]
    exact count_detachments_withReleases h hown hnodup q
  spared := pairwise_withReleases h hnodup

theorem ShadersReleased.createProgram (h : ShadersReleased es)
    (result : Except ExternalFault Int) :
    ShadersReleased (⟨.createProgram, result⟩ :: es) where
  deleted := by cases result <;> exact h.deleted
  detached := h.detached
  spared := List.pairwise_cons.mpr
    ⟨fun e _ => GL.Event.spares_of_not_isRelease rfl e, h.spared⟩

theorem filterMap_deletion {α : Type} {f : GL.Event → Option α}
    (h : f (deletion program) = none) :
    (es ++ [deletion program]).filterMap f = es.filterMap f := by
  simp [h]

theorem ShadersReleased.deleteProgram (h : ShadersReleased es)
    (hnone : GL.programsDeleted es = []) (program : Int) :
    ShadersReleased (es ++ [deletion program]) where
  deleted shader := by
    rw [show GL.shadersDeleted (es ++ [deletion program]) = _ from
        filterMap_deletion rfl,
      show GL.shadersCreated (es ++ [deletion program]) = _ from
        filterMap_deletion rfl]
    exact h.deleted shader
  detached q := by
    rw [show GL.detachments (es ++ [deletion program]) = _ from
        filterMap_deletion rfl,
      show GL.attachments (es ++ [deletion program]) = _ from
        filterMap_deletion rfl]
    exact h.detached q
  spared := by
    refine List.pairwise_append.mpr
      ⟨h.spared, List.pairwise_singleton _ _, fun e he e' he' => ?_⟩
    obtain rfl := List.mem_singleton.mp he'
    exact GL.Event.spares_of_inert (List.filterMap_eq_nil_iff.mp hnone e he)
      rfl rfl

namespace Ran

/-- The shaders that were created are deleted in the same order. -/
theorem shadersDeleted (h : Ran stages es r) :
    GL.shadersDeleted es = GL.shadersCreated es := by
  cases h with
  | notCreated => rfl
  | returned hb =>
    exact (shadersDeleted_withReleases hb.isBuilding_of_mem).trans
      shadersCreated_withReleases.symm
  | @raised program es e hb =>
    calc GL.shadersDeleted (withReleases program es ++ [deletion program])
        = GL.shadersDeleted (withReleases program es) := filterMap_deletion rfl
      _ = GL.shadersCreated es :=
        shadersDeleted_withReleases hb.isBuilding_of_mem
      _ = GL.shadersCreated (withReleases program es) :=
        shadersCreated_withReleases.symm
      _ = GL.shadersCreated (withReleases program es ++ [deletion program]) :=
        (filterMap_deletion rfl).symm

/-- A program that is given back is not deleted. -/
theorem programs_of_ok {outcome : Outcome} (h : Ran stages es (.ok outcome)) :
    GL.programsCreated es = [outcome.program] ∧ GL.programsDeleted es = [] := by
  cases h with
  | @returned program es _ hb =>
    have hbuild := hb.isBuilding_of_mem
    refine ⟨?_, programsDeleted_withReleases hbuild⟩
    rw [hb.program_eq]
    exact congrArg (program :: ·) (programsCreated_withReleases hbuild)

/-- After an error the program is deleted, if there is one. -/
theorem programs_of_error {e : Error} (h : Ran stages es (.error e)) :
    (GL.programsCreated es = [] ∧ GL.programsDeleted es = []) ∨
    ∃ program, GL.programsCreated es = [program] ∧
      GL.programsDeleted es = [program] ∧
      es.getLast? = some (deletion program) := by
  cases h with
  | notCreated => exact .inl ⟨rfl, rfl⟩
  | @raised program es _ hb =>
    have hbuild := hb.isBuilding_of_mem
    refine .inr ⟨program, ?_, ?_, by simp [List.getLast?_cons]⟩
    · exact congrArg (program :: ·)
        ((filterMap_deletion rfl).trans (programsCreated_withReleases hbuild))
    · have hnone : GL.programsDeleted (withReleases program es) = [] :=
        programsDeleted_withReleases hbuild
      simp only [List.filterMap_cons, List.filterMap_append, hnone]
      rfl

/-- An error is that of the call that failed, or that of the kinds that do not
go together. -/
theorem cause (h : Ran stages es r) :
    match r with
    | .ok _ => GL.faults es = [] ∧ mixing? none stages = none
    | .error e =>
      (∃ fault, GL.faults es = [fault] ∧ e = .external fault) ∨
      ∃ a b, GL.faults es = [] ∧ mixing? none stages = some (a, b) ∧
        e = .mixedStages a b := by
  cases h with
  | notCreated => exact .inl ⟨_, rfl, rfl⟩
  | returned hb =>
    exact ⟨faults_withReleases.trans hb.cause.1, hb.cause.2⟩
  | @raised program es e hb =>
    have hfaults : GL.faults (⟨.createProgram, .ok program⟩ ::
        (withReleases program es ++ [deletion program])) = GL.faults es :=
      (filterMap_deletion rfl).trans faults_withReleases
    rw [hfaults]
    exact hb.cause

/-- Shaders that are distinct are released. -/
theorem shadersReleased (h : Ran stages es r)
    (hnodup : (GL.shadersCreated es).Nodup) : ShadersReleased es := by
  cases h with
  | notCreated =>
    have hempty : ShadersReleased [] :=
      ⟨fun _ => rfl, fun _ => rfl, List.Pairwise.nil⟩
    exact hempty.createProgram _
  | @returned program es outcome hb =>
    have hcreated : GL.shadersCreated (withReleases program es) =
        GL.shadersCreated es := shadersCreated_withReleases
    exact (shadersReleased_withReleases hb.isBuilding_of_mem hb.attachesOwn
      (hcreated ▸ hnodup)).createProgram _
  | @raised program es e hb =>
    have hcreated : GL.shadersCreated (withReleases program es ++
        [deletion program]) = GL.shadersCreated es :=
      (filterMap_deletion rfl).trans shadersCreated_withReleases
    have hshaders := shadersReleased_withReleases hb.isBuilding_of_mem
      hb.attachesOwn (hcreated ▸ hnodup)
    have hnone : GL.programsDeleted (withReleases program es) = [] :=
      programsDeleted_withReleases hb.isBuilding_of_mem
    exact (hshaders.deleteProgram hnone program).createProgram _

end Ran

/-- How a run that ends with `r` gives back the handles it took. -/
structure Released (stages : List Stage) (es : List GL.Event)
    (r : Except Error Outcome) : Prop extends ShadersReleased es where
  /-- A program that is given back is not deleted. -/
  returned : ∀ outcome, r = .ok outcome →
    GL.programsCreated es = [outcome.program] ∧ GL.programsDeleted es = [] ∧
      GL.faults es = [] ∧ mixing? none stages = none
  /-- Otherwise its deletion is the last call of all, if there is one. -/
  raised : ∀ e, r = .error e →
    (GL.programsCreated es = [] ∧ GL.programsDeleted es = []) ∨
    ∃ program, GL.programsCreated es = [program] ∧
      GL.programsDeleted es = [program] ∧
      es.getLast? = some (deletion program)
  /-- The error is the first one: that of the call that failed, or that of the
  kinds that do not go together. -/
  cause : ∀ e, r = .error e →
    (∃ fault, GL.faults es = [fault] ∧ e = .external fault) ∨
    ∃ a b, GL.faults es = [] ∧ mixing? none stages = some (a, b) ∧
      e = .mixedStages a b

theorem Ran.released (h : Ran stages es r)
    (hnodup : (GL.shadersCreated es).Nodup) : Released stages es r := by
  refine ⟨h.shadersReleased hnodup, ?_, ?_, ?_⟩
  · rintro outcome rfl
    obtain ⟨hcreated, hdeleted⟩ := h.programs_of_ok
    exact ⟨hcreated, hdeleted, h.cause⟩
  · rintro e rfl
    exact h.programs_of_error
  · rintro e rfl
    exact h.cause

/-- Whatever fails while stages are made into a program, every handle that was
taken is given back; provided that the device never fails to take things down,
and does not give out a shader twice. -/
theorem run_releases_handles {gl : GL.Device σ} (hgl : Releases gl)
    (hne : stages ≠ []) (s : Session σ) :
    ∃ es, (run gl stages s).2.trace = s.trace ++ es.map .gl ∧
      ((GL.shadersCreated es).Nodup →
        Released stages es (run gl stages s).1) := by
  obtain ⟨es, htrace, -, hran, -⟩ :=
    Act.Makes.of_onFirst (run_makes hgl hne (k := ())) s
  exact ⟨es, htrace, hran.released⟩

/-- The second of two stages fails to compile with its shader half built. -/
theorem run_releases_handles_broken_off :
    let gl := GL.Device.numbering (· matches .compileShader 3) []
    let stages : List Stage :=
      [⟨"a.vert", .vertex, ""⟩, ⟨"a.frag", .fragment, ""⟩]
    ∃ es, (run gl stages ⟨0, [], []⟩).2.trace = es.map .gl ∧
      Released stages es (.error (.external (.failed "glCompileShader"))) := by
  intro gl stages
  have hgl : Releases gl := fun call h =>
    GL.Device.numbering_answers (by cases call <;> first | rfl | cases h)
  have hne : stages ≠ [] := List.cons_ne_nil _ _
  obtain ⟨es, htrace, h⟩ := run_releases_handles hgl hne ⟨0, [], []⟩
  have hes : (run gl stages ⟨0, [], []⟩).2.calls = es :=
    Session.calls_eq htrace
  have hcreated : GL.shadersCreated es = [2, 3] := by
    rw [← hes]
    decide +kernel
  have hresult : (run gl stages ⟨0, [], []⟩).1 =
      .error (.external (.failed "glCompileShader")) := by
    decide +kernel
  exact ⟨es, htrace, hresult ▸ h (by rw [hcreated]; decide)⟩

end ShaderBindings.Compilation
