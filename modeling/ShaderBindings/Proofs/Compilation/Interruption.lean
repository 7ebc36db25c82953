import ShaderBindings.Proofs.Compilation.Release
import ShaderBindings.Proofs.Interruption

/-!
# Compilation — Interruption

The release of the shaders may fail too. `Ended` says all that a compilation can
come to by any device: the shaders are released in order, and the first release
that fails is the end, whether the compilation had succeeded or not. So the
program is still there then, and so are the shaders that were to be released
later.
-/

namespace ShaderBindings.GL

/-- The shader that a call detaches or deletes. -/
def Call.shaderReleased? : Call → Option Int
  | detachShader _ h | deleteShader h => some h
  | _ => none

theorem Call.isRelease_of_shaderReleased? {call : Call} {shader : Int}
    (h : call.shaderReleased? = some shader) : call.isRelease = true := by
  cases call <;> first | rfl | cases h

/-- Detaching and deleting a shader creates nothing and deletes no program. -/
theorem Event.inert_of_shaderReleased? {e : Event} {shader : Int}
    (h : e.call.shaderReleased? = some shader) :
    e.shaderCreated? = none ∧ e.programCreated? = none ∧
      e.programDeleted? = none := by
  obtain ⟨call, result⟩ := e
  cases result <;> cases call <;> first | exact ⟨rfl, rfl, rfl⟩ | cases h

end ShaderBindings.GL

namespace ShaderBindings.Compilation

variable {σ K : Type} {program shader : Int} {stages : List Stage}
variable {held : Held} {es last : List GL.Event} {fault : ExternalFault}
variable {r : Except Error Outcome} {k : K}

/-! ## Releasing by any device -/

theorem release_carried (gl : GL.Device σ) :
    (Act.onFirst (release gl program held)).Makes gl k fun es r k' =>
      k' = k ∧ Act.Carried (held.releaseEvents program) () es r := by
  refine .each_carried (fun shader => ?_) held.created
  by_cases h : shader ∈ held.attached
  · simp only [List.contains_eq_mem, h, decide_true, if_true, Act.onFirst_bind,
      takeDown]
    refine .perform_bind (fun _ => ?_) fun fault _ =>
      ⟨rfl, .inr ⟨fault, .here, rfl⟩⟩
    exact .perform (fun _ => ⟨rfl, .inl ⟨rfl, rfl⟩⟩) fun fault _ =>
      ⟨rfl, .inr ⟨fault, .later .here, rfl⟩⟩
  · simp only [List.contains_eq_mem, h, decide_false, Bool.false_eq_true,
      if_false, takeDown]
    exact .perform (fun _ => ⟨rfl, .inl ⟨rfl, rfl⟩⟩) fun fault _ =>
      ⟨rfl, .inr ⟨fault, .here, rfl⟩⟩

theorem shaderReleased?_of_mem_takeDown {attached : List Int} {e : GL.Event}
    (h : e ∈ takeDown program attached shader) :
    e.call.shaderReleased? = some shader ∧ e.fault? = none := by
  obtain rfl | rfl := mem_takeDown h <;> exact ⟨rfl, rfl⟩

/-- A shader whose release is cut short may have been asked to be deleted. -/
theorem shadersDeleted_of_cutShort {attached : List Int}
    (h : GL.CutShort fault (takeDown program attached shader) last) :
    GL.shadersDeleted last = [] ∨ GL.shadersDeleted last = [shader] := by
  unfold takeDown at h
  split at h
  · cases h with
    | here => exact .inl rfl
    | later h =>
      cases h with
      | here => exact .inr rfl
      | later h => cases h
  · cases h with
    | here => exact .inr rfl
    | later h => cases h

section Releasing

variable (h : ∀ e ∈ es, ∃ shader, e.call.shaderReleased? = some shader)
include h

theorem shadersCreated_of_releasing : GL.shadersCreated es = [] :=
  List.filterMap_eq_nil_iff.mpr fun e he =>
    let ⟨_, hshader⟩ := h e he
    (GL.Event.inert_of_shaderReleased? hshader).1

theorem programsCreated_of_releasing : GL.programsCreated es = [] :=
  List.filterMap_eq_nil_iff.mpr fun e he =>
    let ⟨_, hshader⟩ := h e he
    (GL.Event.inert_of_shaderReleased? hshader).2.1

theorem programsDeleted_of_releasing : GL.programsDeleted es = [] :=
  List.filterMap_eq_nil_iff.mpr fun e he =>
    let ⟨_, hshader⟩ := h e he
    (GL.Event.inert_of_shaderReleased? hshader).2.2

end Releasing

/-! ## Runs on any device -/

/-- All that can happen when stages are made into a program. -/
inductive Ended (stages : List Stage) :
    List GL.Event → Except Error Outcome → Prop
  | notCreated {fault : ExternalFault} :
    Ended stages [⟨.createProgram, .error fault⟩] (.error (.external fault))
  /-- The release of a shader fails, after whatever has happened before. -/
  | interrupted {program : Int} {es last : List GL.Event}
      {r : Except Error Outcome} {fault : ExternalFault}
      (h : Built program stages es r)
      (hcut : GL.CutShort fault
        ((Held.after {} es).releaseEvents program) last) :
    Ended stages (⟨.createProgram, .ok program⟩ :: (es ++ last))
      (.error (.external fault))
  | returned {program : Int} {es : List GL.Event} {outcome : Outcome}
      (h : Built program stages es (.ok outcome)) :
    Ended stages (⟨.createProgram, .ok program⟩ :: withReleases program es)
      (.ok outcome)
  /-- The program is deleted. If that fails too, this is the error. -/
  | raised {program : Int} {es : List GL.Event} {e : Error}
      (h : Built program stages es (.error e))
      (result : Except ExternalFault Unit) :
    Ended stages (⟨.createProgram, .ok program⟩ ::
        (withReleases program es ++ [⟨.deleteProgram program, result⟩]))
      (.error (match result with
        | .ok _ => e
        | .error fault => .external fault))

theorem run_ended (gl : GL.Device σ) (hne : stages ≠ []) :
    (Act.onFirst (run gl stages)).Makes gl k fun es r k' =>
      k' = k ∧ Ended stages es r := by
  have hempty : stages.isEmpty = false := by simpa using hne
  simp only [run, hempty, Bool.false_eq_true, if_false, Act.onFirst_bind]
  refine .perform_bind (fun program => ?_) fun fault _ => ⟨rfl, .notCreated⟩
  refine .tracked_bind (build_makes gl) ?_
  rintro es r held ⟨hb, rfl⟩
  cases r with
  | ok outcome =>
    simp only [Act.onFirst_bind, Act.onFirst_pure]
    refine .bind (release_carried gl) ?_ ?_
    · rintro es' _ k' ⟨rfl, ⟨rfl, -⟩ | ⟨_, -, ⟨⟩⟩⟩
      refine .pure ⟨rfl, ?_⟩
      rw [List.append_nil]
      exact .returned hb
    · rintro es' e k' ⟨rfl, ⟨-, ⟨⟩⟩ | ⟨fault, hcut, ⟨⟩⟩⟩
      exact ⟨rfl, .interrupted hb hcut⟩
  | error e =>
    simp only [Act.onFirst_bind, Act.onFirst_fail]
    refine .bind (release_carried gl) ?_ ?_
    · rintro es' _ k' ⟨rfl, ⟨rfl, -⟩ | ⟨_, -, ⟨⟩⟩⟩
      refine .perform_bind (fun _ => .fail ⟨rfl, ?_⟩) fun fault _ => ⟨rfl, ?_⟩
      · rw [← List.append_assoc]
        exact .raised hb (.ok ())
      · rw [← List.append_assoc]
        exact .raised hb (.error fault)
    · rintro es' e' k' ⟨rfl, ⟨-, ⟨⟩⟩ | ⟨fault, hcut, ⟨⟩⟩⟩
      exact ⟨rfl, .interrupted hb hcut⟩

/-! ## A release that fails -/

/-- How a compilation ends when a call fails that detaches or deletes a
shader. -/
structure Interrupted (es : List GL.Event) (shader : Int)
    (fault : ExternalFault) (r : Except Error Outcome) : Prop where
  /-- The caller is told of this failure, whatever has failed before. -/
  raised : r = .error (.external fault)
  /-- Nothing is called after it. -/
  last : ∃ call : GL.Call, call.shaderReleased? = some shader ∧
    es.getLast? = some ⟨call, .error fault⟩
  /-- The program is never deleted. -/
  program : ∃ program, GL.programsCreated es = [program] ∧
    GL.programsDeleted es = []
  /-- The deletion of every other shader has been tried, exactly if this shader
  was created last. -/
  others : (∀ h ∈ GL.shadersCreated es, h ≠ shader →
    h ∈ GL.shadersDeleted es) ↔ (GL.shadersCreated es).getLast? = some shader

/-- Of distinct items of which the first are done, perhaps with the next one,
all but that one are done exactly if it is the last. -/
theorem forall_others_iff {before after done : List Int} {item : Int}
    (hnodup : (before ++ item :: after).Nodup)
    (hdone : done = before ∨ done = before ++ [item]) :
    (∀ h ∈ before ++ item :: after, h ≠ item → h ∈ done) ↔
      (before ++ item :: after).getLast? = some item := by
  obtain ⟨-, hrest, hdisjoint⟩ := List.nodup_append.mp hnodup
  have hitem : item ∉ after := (List.nodup_cons.mp hrest).1
  cases hafter : after.getLast? with
  | none =>
    obtain rfl := List.getLast?_eq_none_iff.mp hafter
    refine iff_of_true (fun h hh hne => ?_) (by simp)
    have hbefore : h ∈ before := by simpa [hne] using hh
    rcases hdone with rfl | rfl
    · exact hbefore
    · exact List.mem_append_left _ hbefore
  | some h =>
    have hmem : h ∈ after := List.mem_of_getLast? hafter
    have hne : h ≠ item := fun heq => hitem (heq ▸ hmem)
    refine iff_of_false (fun hall => ?_) ?_
    · have hnot : h ∉ before := fun hb =>
        hdisjoint h hb h (List.mem_cons_of_mem _ hmem) rfl
      have hd := hall h (by simp [hmem]) hne
      rcases hdone with rfl | rfl
      · exact hnot hd
      · simp [hnot, hne] at hd
    · simpa [List.getLast?_append, List.getLast?_cons, hafter] using hne

/-- Where every shader is released, no release has failed. -/
theorem not_mem_withReleases {call : GL.Call} (program : Int)
    (hb : ∀ e ∈ es, isBuilding e.call = true)
    (hcall : call.shaderReleased? = some shader) :
    ⟨call, .error fault⟩ ∉ withReleases program es := by
  intro he
  rcases List.mem_append.mp he with hes | hrelease
  · have hbuilding : call.isRelease = false :=
      isRelease_of_isBuilding (hb _ hes)
    rw [GL.Call.isRelease_of_shaderReleased? hcall] at hbuilding
    cases hbuilding
  · obtain ⟨_, -, he | he⟩ := Held.mem_releaseEvents hrelease <;> cases he

/-- A program is built, some shaders are released, and the release of the next
one is cut short. -/
theorem interrupted_of_cutShort {before after attached : List Int}
    (hb : ∀ e ∈ es, isBuilding e.call = true)
    (hnodup : (GL.shadersCreated es).Nodup)
    (hcreated : GL.shadersCreated es = before ++ shader :: after)
    (hcut : GL.CutShort fault (takeDown program attached shader) last) :
    Interrupted (⟨.createProgram, .ok program⟩ ::
      (es ++ (before.flatMap (takeDown program attached) ++ last)))
      shader fault (.error (.external fault)) := by
  let released := before.flatMap (takeDown program attached) ++ last
  have hreleasing : ∀ e ∈ released, ∃ h, e.call.shaderReleased? = some h := by
    refine List.forall_mem_append.mpr ⟨fun e he => ?_, ?_⟩
    · obtain ⟨h, -, he⟩ := List.mem_flatMap.mp he
      exact ⟨h, (shaderReleased?_of_mem_takeDown he).1⟩
    · refine hcut.forall_call (p := fun c => ∃ h, c.shaderReleased? = some h) ?_
      exact fun e he => ⟨shader, (shaderReleased?_of_mem_takeDown he).1⟩
  have hshaders : GL.shadersCreated (⟨.createProgram, .ok program⟩ ::
      (es ++ released)) = before ++ shader :: after := by
    show GL.shadersCreated (es ++ released) = _
    rw [GL.shadersCreated_append, shadersCreated_of_releasing hreleasing,
      List.append_nil, hcreated]
  have hdeleted : GL.shadersDeleted (⟨.createProgram, .ok program⟩ ::
      (es ++ released)) = before ++ GL.shadersDeleted last := by
    show GL.shadersDeleted (es ++ released) = _
    rw [GL.shadersDeleted_append, shadersDeleted_of_isBuilding hb,
      List.nil_append, GL.shadersDeleted_append]
    exact congrArg (· ++ _)
      (@Held.shadersDeleted_releaseEvents program ⟨before, attached⟩)
  refine ⟨rfl, ?_, ⟨program, ?_, ?_⟩, ?_⟩
  · obtain ⟨e, he, hlast⟩ := hcut.exists_getLast?
    refine ⟨e.call, (shaderReleased?_of_mem_takeDown he).1, ?_⟩
    simp [List.getLast?_cons, List.getLast?_append, hlast]
  · show [program] ++ GL.programsCreated (es ++ released) = _
    rw [GL.programsCreated_append, programsCreated_of_isBuilding hb,
      programsCreated_of_releasing hreleasing]
    rfl
  · show GL.programsDeleted (es ++ released) = _
    rw [GL.programsDeleted_append, programsDeleted_of_isBuilding hb,
      programsDeleted_of_releasing hreleasing]
    rfl
  · rw [hshaders, hdeleted]
    refine forall_others_iff (hcreated ▸ hnodup) ?_
    rcases shadersDeleted_of_cutShort hcut with h | h
    · exact .inl (by rw [h, List.append_nil])
    · exact .inr (by rw [h])

/-- Of the calls that release a shader only the one that cuts them short has
failed. -/
theorem eq_of_mem_cutShort {attached : List Int} {item : Int}
    {fault' : ExternalFault} {call : GL.Call}
    (hcut : GL.CutShort fault' (takeDown program attached item) last)
    (hcall : call.shaderReleased? = some shader)
    (he : ⟨call, .error fault⟩ ∈ last) : shader = item ∧ fault = fault' := by
  have hitem : call.shaderReleased? = some item :=
    hcut.forall_call (p := fun c => c.shaderReleased? = some item)
      (fun e he => (shaderReleased?_of_mem_takeDown he).1) _ he
  have hfaults : GL.faults last = [fault'] :=
    hcut.faults_eq (List.filterMap_eq_nil_iff.mpr fun e he =>
      (shaderReleased?_of_mem_takeDown he).2)
  have hfault : fault ∈ GL.faults last := List.mem_filterMap.mpr ⟨_, he, rfl⟩
  rw [hfaults] at hfault
  exact ⟨Option.some.inj (hcall.symm.trans hitem), List.mem_singleton.mp hfault⟩

theorem Ended.interruptedBy (h : Ended stages es r)
    (hnodup : (GL.shadersCreated es).Nodup) {call : GL.Call}
    (hcall : call.shaderReleased? = some shader)
    (he : ⟨call, .error fault⟩ ∈ es) : Interrupted es shader fault r := by
  cases h with
  | notCreated =>
    cases List.mem_singleton.mp he
    cases hcall
  | @interrupted program es last r fault' hb hcut =>
    have hbuilding := hb.isBuilding_of_mem
    obtain ⟨before, item, after, made, hcreated, rfl, hitem⟩ := hcut.of_flatMap
    have hmade : ⟨call, .error fault⟩ ∈ made := by
      simp only [List.mem_cons, List.mem_append] at he
      rcases he with he | he | he | he
      · cases he
      · exact (not_mem_withReleases program hbuilding hcall
          (List.mem_append_left _ he)).elim
      · obtain ⟨_, -, he⟩ := List.mem_flatMap.mp he
        cases (shaderReleased?_of_mem_takeDown he).2
      · exact he
    obtain ⟨rfl, rfl⟩ := eq_of_mem_cutShort hitem hcall hmade
    have hcreated : GL.shadersCreated es = before ++ shader :: after := by
      simpa [Held.after] using hcreated
    have hnodup : (GL.shadersCreated es).Nodup := by
      rw [show GL.shadersCreated (_ :: (es ++ _)) = GL.shadersCreated (es ++ _)
        from rfl, GL.shadersCreated_append] at hnodup
      exact (List.nodup_append.mp hnodup).1
    exact interrupted_of_cutShort hbuilding hnodup hcreated hitem
  | @returned program es _ hb =>
    rcases List.mem_cons.mp he with he | he
    · cases he
    · exact (not_mem_withReleases program hb.isBuilding_of_mem hcall he).elim
  | @raised program es e hb result =>
    rcases List.mem_cons.mp he with he | he
    · cases he
    · rcases List.mem_append.mp he with he | he
      · exact (not_mem_withReleases program hb.isBuilding_of_mem hcall he).elim
      · cases List.mem_singleton.mp he
        cases hcall

/-- When a call fails that detaches or deletes a shader, on whatever way it is
made, the compilation ends with this failure. The program is not deleted, and
the shaders that come after the one in question are not even tried. -/
theorem run_interrupted (gl : GL.Device σ) (hne : stages ≠ [])
    (s : Session σ) :
    ∃ es, (run gl stages s).2.trace = s.trace ++ es.map .gl ∧
      ((GL.shadersCreated es).Nodup → ∀ call shader fault,
        call.shaderReleased? = some shader → ⟨call, .error fault⟩ ∈ es →
          Interrupted es shader fault (run gl stages s).1) := by
  obtain ⟨es, htrace, -, -, hended⟩ :=
    Act.Makes.of_onFirst (run_ended gl hne (k := ())) s
  exact ⟨es, htrace, fun hnodup call shader fault hcall he =>
    hended.interruptedBy hnodup hcall he⟩

/-- The first of two shaders cannot be deleted, after both stages were compiled
and linked. -/
theorem run_interrupted_linked :
    let gl := GL.Device.numbering (· matches .deleteShader 2) []
    let stages : List Stage :=
      [⟨"a.vert", .vertex, ""⟩, ⟨"a.frag", .fragment, ""⟩]
    ∃ es, (run gl stages ⟨0, [], []⟩).2.trace = es.map .gl ∧
      Interrupted es 2 (.failed "glDeleteShader")
        (run gl stages ⟨0, [], []⟩).1 ∧
      3 ∉ GL.shadersDeleted es := by
  intro gl stages
  have hne : stages ≠ [] := List.cons_ne_nil _ _
  obtain ⟨es, htrace, h⟩ := run_interrupted gl hne ⟨0, [], []⟩
  have hes : (run gl stages ⟨0, [], []⟩).2.calls = es :=
    Session.calls_eq htrace
  have hcreated : GL.shadersCreated es = [2, 3] := by
    rw [← hes]
    decide +kernel
  have hfailed : ∃ e ∈ es, e.call.shaderReleased? = some 2 ∧
      e.fault? = some (.failed "glDeleteShader") := by
    rw [← hes]
    decide +kernel
  obtain ⟨e, he, hcall, hfault⟩ := hfailed
  have hinterrupted := h (by rw [hcreated]; decide) e.call 2 _ hcall
    (GL.Event.eq_of_fault? hfault ▸ he)
  refine ⟨es, htrace, hinterrupted, fun hthree => ?_⟩
  rw [← hes] at hthree
  revert hthree
  decide +kernel

end ShaderBindings.Compilation
