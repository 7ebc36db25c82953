import ShaderBindings.Proofs.Binding.Lifetime

/-!
# Binding — Shaders

The life of a shader: it is created, gets its text, is compiled, attached to a
program, detached from it and deleted, and that is all that is ever done with
it. So no shader outlives the compilation that it was created for.
-/

namespace ShaderBindings.Binding

variable {plan : Plan} {b : Shared} {program shader : Int}
variable {stages : List PlannedStage} {shaders : List Int}
variable {es es' : List GL.Event}

/-! ## One life -/

/-- All that is done with a shader. -/
def lifeOf (program : Int) (kind : StageKind) (text : String) (shader : Int) :
    List GL.Event :=
  [ ⟨.createShader kind, .ok shader⟩,
    ⟨.shaderSource shader text, .ok ()⟩,
    ⟨.compileShader shader, .ok ()⟩,
    ⟨.attachShader program shader, .ok ()⟩,
    ⟨.detachShader program shader, .ok ()⟩,
    ⟨.deleteShader shader, .ok ()⟩ ]

/-- The shader has had its life, for the program that was created last before
it was. -/
def Lived (es : List GL.Event) (shader : Int) : Prop :=
  ∃ before after kind text program,
    es = before ++ ⟨.createShader kind, .ok shader⟩ :: after ∧
    (GL.programsCreated before).getLast? = some program ∧
    es.filter (GL.Event.concerns shader) = lifeOf program kind text shader

/-- Every shader that was created has had its life, and nothing else is done
with any shader. -/
structure ShadersLived (es : List GL.Event) : Prop where
  lived : ∀ shader ∈ GL.shadersCreated es, Lived es shader
  others : ∀ shader ∉ GL.shadersCreated es,
    es.filter (GL.Event.concerns shader) = []

theorem shadersLived_nil : ShadersLived [] :=
  ⟨by simp, by simp⟩

theorem shadersLived_deletion (k : State) : ShadersLived [deletion k] :=
  ⟨by rintro shader ⟨⟩, fun _ _ => rfl⟩

/-- Lives of distinct shaders do not meet. -/
theorem ShadersLived.append (h : ShadersLived es) (h' : ShadersLived es')
    (hnodup : (GL.shadersCreated (es ++ es')).Nodup) :
    ShadersLived (es ++ es') := by
  simp only [List.filterMap_append] at hnodup
  obtain ⟨-, -, hdisjoint⟩ := List.nodup_append.mp hnodup
  refine ⟨fun shader hs => ?_, fun shader hs => ?_⟩
  · simp only [List.filterMap_append, List.mem_append] at hs
    obtain hs | hs := hs
    · have hother : shader ∉ GL.shadersCreated es' := fun hs' =>
        hdisjoint shader hs shader hs' rfl
      obtain ⟨before, after, kind, text, program, rfl, hprogram, hlife⟩ :=
        h.lived shader hs
      refine ⟨before, after ++ es', kind, text, program, by simp, hprogram, ?_⟩
      rw [List.filter_append, hlife, h'.others shader hother, List.append_nil]
    · have hother : shader ∉ GL.shadersCreated es := fun hs' =>
        hdisjoint shader hs' shader hs rfl
      obtain ⟨before, after, kind, text, program, rfl, hprogram, hlife⟩ :=
        h'.lived shader hs
      refine ⟨es ++ before, after, kind, text, program, by simp, ?_, ?_⟩
      · simp [List.getLast?_append, hprogram]
      · rw [List.filter_append, h.others shader hother, hlife, List.nil_append]
  · simp only [List.filterMap_append, List.mem_append, not_or] at hs
    rw [List.filter_append, h.others shader hs.1, h'.others shader hs.2]
    rfl

/-! ## The lives of a compilation -/

theorem mem_attachEvents {e : GL.Event}
    (h : e ∈ attachEvents b program stages shaders) :
    ∃ s ∈ stages, ∃ shader ∈ shaders, e ∈ attachStage b program s shader := by
  obtain ⟨l, hl, he⟩ := List.mem_flatten.mp h
  obtain ⟨i, hi, rfl⟩ := List.mem_iff_getElem.mp hl
  rw [List.getElem_zipWith] at he
  exact ⟨_, List.getElem_mem _, _, List.getElem_mem _, he⟩

theorem shadersCreated_attachEvents (h : shaders.length = stages.length) :
    GL.shadersCreated (attachEvents b program stages shaders) = shaders := by
  induction stages generalizing shaders with
  | nil => simp [List.length_eq_zero_iff.mp h, attachEvents]
  | cons s rest ih =>
    cases shaders with
    | nil => cases h
    | cons shader shaders =>
      exact congrArg (shader :: ·) (ih (Nat.succ.inj h))

theorem filterMap_attachEvents {α : Type} {f : GL.Event → Option α}
    (h : ∀ s shader, (attachStage b program s shader).filterMap f = []) :
    (attachEvents b program stages shaders).filterMap f = [] := by
  refine List.filterMap_eq_nil_iff.mpr fun e he => ?_
  obtain ⟨s, -, shader, -, he⟩ := mem_attachEvents he
  exact List.filterMap_eq_nil_iff.mp (h s shader) e he

theorem filter_attachStage_self (s : PlannedStage) :
    (attachStage b program s shader).filter (GL.Event.concerns shader) =
      attachStage b program s shader := by
  simp [attachStage, GL.Event.concerns, GL.Call.shader?,
    GL.Event.shaderCreated?, GL.Call.newShader?]

theorem filter_attachStage_of_ne {other : Int} (h : other ≠ shader)
    (s : PlannedStage) :
    (attachStage b program s other).filter (GL.Event.concerns shader) = [] := by
  simp [attachStage, GL.Event.concerns, GL.Call.shader?,
    GL.Event.shaderCreated?, GL.Call.newShader?, h]

theorem filter_attachEvents_of_notMem (h : shader ∉ shaders) :
    (attachEvents b program stages shaders).filter
      (GL.Event.concerns shader) = [] := by
  refine List.filter_eq_nil_iff.mpr fun e he => ?_
  obtain ⟨s, -, other, hother, he⟩ := mem_attachEvents he
  have hne : other ≠ shader := fun heq => h (heq ▸ hother)
  exact List.filter_eq_nil_iff.mp (filter_attachStage_of_ne hne s) e he

/-- A shader is attached in one place. -/
theorem attachEvents_of_mem (b : Shared) (program : Int)
    (hlength : shaders.length = stages.length)
    (hnodup : shaders.Nodup) (h : shader ∈ shaders) :
    ∃ s before after, attachEvents b program stages shaders =
        before ++ ⟨.createShader s.stage.kind, .ok shader⟩ :: after ∧
      (attachEvents b program stages shaders).filter
        (GL.Event.concerns shader) = attachStage b program s shader := by
  induction stages generalizing shaders with
  | nil => simp [List.length_eq_zero_iff.mp hlength] at h
  | cons s rest ih =>
    cases shaders with
    | nil => cases h
    | cons first others =>
      have hcons : attachEvents b program (s :: rest) (first :: others) =
          attachStage b program s first ++
            attachEvents b program rest others := rfl
      obtain ⟨hfirst, hnodup⟩ := List.nodup_cons.mp hnodup
      rw [hcons, List.filter_append]
      obtain rfl | h := List.mem_cons.mp h
      · rw [filter_attachStage_self, filter_attachEvents_of_notMem hfirst,
          List.append_nil]
        exact ⟨s, [], _, rfl, rfl⟩
      · obtain ⟨s', before, after, hevents, hfilter⟩ :=
          ih (Nat.succ.inj hlength) hnodup h
        have hne : first ≠ shader := fun heq => hfirst (heq ▸ h)
        rw [filter_attachStage_of_ne hne, hfilter, hevents]
        exact ⟨s', attachStage b program s first ++ before, after, by simp, rfl⟩

theorem filter_releaseStage_of_notMem (h : shader ∉ shaders) :
    (shaders.flatMap (releaseStage program)).filter
      (GL.Event.concerns shader) = [] := by
  refine List.filter_eq_nil_iff.mpr fun e he => ?_
  obtain ⟨other, hother, he⟩ := List.mem_flatMap.mp he
  have hne : other ≠ shader := fun heq => h (heq ▸ hother)
  simp only [releaseStage, List.mem_cons, List.not_mem_nil, or_false] at he
  obtain rfl | rfl := he <;>
  simp [GL.Event.concerns, GL.Call.shader?, GL.Event.shaderCreated?,
    GL.Call.newShader?, hne]

theorem filter_releaseStage_of_mem (hnodup : shaders.Nodup)
    (h : shader ∈ shaders) :
    (shaders.flatMap (releaseStage program)).filter
      (GL.Event.concerns shader) = releaseStage program shader := by
  induction shaders with
  | nil => cases h
  | cons first others ih =>
    obtain ⟨hfirst, hnodup⟩ := List.nodup_cons.mp hnodup
    rw [List.flatMap_cons, List.filter_append]
    obtain rfl | h := List.mem_cons.mp h
    · rw [filter_releaseStage_of_notMem hfirst, List.append_nil]
      simp [releaseStage, GL.Event.concerns, GL.Call.shader?]
    · have hne : shader ∉ [first] := by
        rintro hmem
        exact hfirst (List.mem_singleton.mp hmem ▸ h)
      have hnone : ([first].flatMap (releaseStage program)).filter
          (GL.Event.concerns shader) = [] := filter_releaseStage_of_notMem hne
      rw [List.flatMap_singleton] at hnone
      rw [hnone, ih hnodup h, List.nil_append]

/-- Looking up locations has nothing to do with handles. -/
theorem mem_lookups {a : Answers} {e : GL.Event} (h : e ∈ a.lookups plan) :
    ∃ name location, e = ⟨.uniformLocation a.program name, .ok location⟩ ∨
      e = ⟨.attributeLocation a.program name, .ok location⟩ := by
  obtain h | h := List.mem_append.mp h
  all_goals
    obtain ⟨i, hi, rfl⟩ := List.mem_iff_getElem.mp h
    rw [List.getElem_zipWith]
  · exact ⟨_, _, .inl rfl⟩
  · exact ⟨_, _, .inr rfl⟩

theorem filterMap_lookups {α : Type} {f : GL.Event → Option α} {a : Answers}
    (huniform : ∀ name location,
      f ⟨.uniformLocation a.program name, .ok location⟩ = none)
    (hattribute : ∀ name location,
      f ⟨.attributeLocation a.program name, .ok location⟩ = none) :
    (a.lookups plan).filterMap f = [] := by
  refine List.filterMap_eq_nil_iff.mpr fun e he => ?_
  obtain ⟨name, location, rfl | rfl⟩ := mem_lookups he
  · exact huniform name location
  · exact hattribute name location

theorem filter_lookups {a : Answers} :
    (a.lookups plan).filter (GL.Event.concerns shader) = [] := by
  refine List.filter_eq_nil_iff.mpr fun e he => ?_
  obtain ⟨name, location, rfl | rfl⟩ := mem_lookups he <;>
  exact Bool.false_ne_true

/-- Releasing stages is nothing but detaching and deleting shaders. -/
theorem filterMap_releaseStage {α : Type} {f : GL.Event → Option α}
    (hdetach : ∀ h, f ⟨.detachShader program h, .ok ()⟩ = none)
    (hdelete : ∀ h, f ⟨.deleteShader h, .ok ()⟩ = none) :
    (shaders.flatMap (releaseStage program)).filterMap f = [] := by
  refine List.filterMap_eq_nil_iff.mpr fun e he => ?_
  obtain ⟨shader, -, he⟩ := List.mem_flatMap.mp he
  simp only [releaseStage, List.mem_cons, List.not_mem_nil, or_false] at he
  obtain rfl | rfl := he
  · exact hdetach shader
  · exact hdelete shader

namespace Answers

variable (a : Answers)

/-- Of what is found in calls, only what creating a program and attaching stages
shows is found in a compilation. -/
theorem filterMap_events {α : Type} {f : GL.Event → Option α}
    (hlink : f ⟨.linkProgram a.program, .ok ()⟩ = none)
    (hlog : f ⟨.programInfoLog a.program, .ok a.log⟩ = none)
    (hrelease : (a.shaders.flatMap (releaseStage a.program)).filterMap f = [])
    (hlookups : (a.lookups plan).filterMap f = []) :
    (a.events plan b).filterMap f =
      [⟨.createProgram, .ok a.program⟩].filterMap f ++
        (attachEvents b a.program plan.stages a.shaders).filterMap f := by
  rw [events, ← List.singleton_append, List.filterMap_append,
    List.filterMap_append, List.filterMap_cons_none hlink,
    List.filterMap_cons_none hlog, List.filterMap_append, hrelease, hlookups,
    List.append_nil, List.append_nil]

theorem programsCreated_events :
    GL.programsCreated (a.events plan b) = [a.program] := by
  have hattach : GL.programsCreated
      (attachEvents b a.program plan.stages a.shaders) = [] :=
    filterMap_attachEvents fun _ _ => rfl
  refine (a.filterMap_events rfl rfl
    (filterMap_releaseStage (fun _ => rfl) fun _ => rfl)
    (filterMap_lookups (fun _ _ => rfl) fun _ _ => rfl)).trans ?_
  exact congrArg ([a.program] ++ ·) hattach

theorem programsDeleted_events :
    GL.programsDeleted (a.events plan b) = [] := by
  have hattach : GL.programsDeleted
      (attachEvents b a.program plan.stages a.shaders) = [] :=
    filterMap_attachEvents fun _ _ => rfl
  refine (a.filterMap_events rfl rfl
    (filterMap_releaseStage (fun _ => rfl) fun _ => rfl)
    (filterMap_lookups (fun _ _ => rfl) fun _ _ => rfl)).trans ?_
  exact hattach

theorem shadersCreated_events (h : a.shaders.length = plan.stages.length) :
    GL.shadersCreated (a.events plan b) = a.shaders := by
  refine (a.filterMap_events rfl rfl
    (filterMap_releaseStage (fun _ => rfl) fun _ => rfl)
    (filterMap_lookups (fun _ _ => rfl) fun _ _ => rfl)).trans ?_
  exact shadersCreated_attachEvents h

theorem filter_events (shader : Int) :
    (a.events plan b).filter (GL.Event.concerns shader) =
      (attachEvents b a.program plan.stages a.shaders).filter
        (GL.Event.concerns shader) ++
      (a.shaders.flatMap (releaseStage a.program)).filter
        (GL.Event.concerns shader) := by
  have hskip (e : GL.Event) (es : List GL.Event)
      (h : GL.Event.concerns shader e = false) :
      (e :: es).filter (GL.Event.concerns shader) =
        es.filter (GL.Event.concerns shader) := by
    simp [h]
  rw [events, hskip _ _ rfl, List.filter_append, hskip _ _ rfl,
    hskip _ _ rfl, List.filter_append, filter_lookups, List.append_nil]

/-- The shaders of a compilation have their lives within it. -/
theorem shadersLived_events (h : a.shaders.length = plan.stages.length)
    (hnodup : a.shaders.Nodup) : ShadersLived (a.events plan b) := by
  refine ⟨fun shader hs => ?_, fun shader hs => ?_⟩
  · rw [a.shadersCreated_events h] at hs
    obtain ⟨s, before, after, hevents, hfilter⟩ :=
      attachEvents_of_mem b a.program h hnodup hs
    refine ⟨⟨.createProgram, .ok a.program⟩ :: before,
      after ++ (⟨.linkProgram a.program, .ok ()⟩ ::
        ⟨.programInfoLog a.program, .ok a.log⟩ ::
          (a.shaders.flatMap (releaseStage a.program) ++ a.lookups plan)),
      s.stage.kind, sourceOf b s, a.program, ?_, ?_, ?_⟩
    · simp [events, hevents]
    · have hnone : GL.programsCreated
          (attachEvents b a.program plan.stages a.shaders) = [] :=
        filterMap_attachEvents fun _ _ => rfl
      rw [hevents] at hnone
      simp only [List.filterMap_append, List.append_eq_nil_iff] at hnone
      have hprograms : GL.programsCreated
          (⟨.createProgram, .ok a.program⟩ :: before) = [a.program] :=
        congrArg (a.program :: ·) hnone.1
      rw [hprograms]
      rfl
    · rw [filter_events, hfilter, filter_releaseStage_of_mem hnodup hs]
      rfl
  · rw [a.shadersCreated_events h] at hs
    rw [filter_events, filter_attachEvents_of_notMem hs,
      filter_releaseStage_of_notMem hs]
    rfl

end Answers

end ShaderBindings.Binding
