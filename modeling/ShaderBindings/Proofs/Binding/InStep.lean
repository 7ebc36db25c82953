import ShaderBindings.Binding.Drawing
import ShaderBindings.Binding.Parameters
import ShaderBindings.Proofs.Binding.Alongside
import ShaderBindings.Proofs.Table

/-!
# Binding — Methods in step

Every method of a class that has the texts of its stages is in step with that of
a class that reads them whenever it compiles. They are the same but for the
compilation, where one class takes the texts that it has and the other reads
them first.
-/

namespace ShaderBindings

/-- The specification of a class that reads its stages whenever it compiles
them. -/
def Spec.reloading (spec : Spec) : Spec :=
  { spec with options := { spec.options with reload := true } }

/-- The plan of such a class. -/
def Plan.reloading (plan : Plan) : Plan :=
  { plan with options := { plan.options with reload := true } }

namespace Binding

variable {σ τ α β : Type} {plan : Plan} {files : File.System}
variable {gl : GL.Device σ} {gl' : GL.Device τ}
variable {texts : List (String × String) → List (String × String) → Prop}

/-! ## References -/

theorem acquire_eq : (References.acquire references : Work σ Nat) = (do
    let b ← shared
    share fun c => { c with references := ⟨b.references.count + 1⟩ }
    return b.references.count + 1) :=
  rfl

theorem release_eq (x : Work σ Unit) : References.release references x = (do
    let b ← shared
    match b.references.count with
    | 0 =>
      Act.onFirst
        (Session.warn "Counter released more often than it was acquired")
      return 0
    | count + 1 =>
      share fun c => { c with references := ⟨count⟩ }
      if count = 0 then x
      let b ← shared
      return b.references.count) :=
  rfl

/-! ## Calls of drawing -/

theorem passesText_of_mem_textureCalls {i : Instance} {u : PlannedUniform}
    {c : GL.Call} (h : c ∈ textureCalls i u) : c.passesText = false := by
  unfold textureCalls at h
  split at h
  · obtain rfl | rfl : c = _ ∨ c = _ := by simpa using h
    · rfl
    · rfl
  · cases h

theorem passesText_of_passCall? {b : Shared} {i : Instance}
    {u : PlannedUniform} {c : GL.Call} (h : passCall? b i u = some c) :
    c.passesText = false := by
  unfold passCall? at h
  split at h
  · cases h
    rfl
  · obtain ⟨upload, -, rfl⟩ := Option.map_eq_some_iff.mp h
    rfl

/-! ## Texts of stages -/

/-- A class has the texts of its stages from its generation. -/
def Embedded (plan : Plan) (sources : List (String × String)) : Prop :=
  ∀ s ∈ plan.stages, sources.lookup s.id = some s.stage.text

/-- A class has the texts of its stages from its generation, and another one has
them from files. -/
def Supplied (plan : Plan) (files : File.System)
    (sources sources' : List (String × String)) : Prop :=
  ∀ s ∈ plan.stages, sources.lookup s.id = some s.stage.text ∧ ∃ text,
    files.readText (.ofText s.stage.path) = .ok text ∧
    sources'.lookup s.id = some text

theorem loaded_cons (s : PlannedStage) (rest : List PlannedStage)
    (sources : List (String × String)) : loaded files (s :: rest) sources =
      match files.readText (.ofText s.stage.path) with
      | .ok text => loaded files rest (Table.insert s.id text sources)
      | .error e => (.error e, sources) :=
  rfl

theorem loadStages_run (stages : List PlannedStage) (s : Session σ)
    (k : State) : loadStages stages (s, k) =
      ((loaded k.files stages k.shared.sources).1, s,
        k.withSources (loaded k.files stages k.shared.sources).2) := by
  induction stages generalizing k with
  | nil => rfl
  | cons stage rest ih =>
    have hstep : (loadStages (stage :: rest) : Work σ Unit) (s, k) =
        (Act.ofExcept (k.files.readText (.ofText stage.stage.path)) >>=
          fun text => share (fun b =>
            { b with sources := Table.insert stage.id text b.sources }) >>=
          fun _ => loadStages rest) (s, k) := rfl
    rw [hstep, loaded_cons]
    cases k.files.readText (.ofText stage.stage.path) with
    | error e => rfl
    | ok text =>
      exact ih (k.withSources (Table.insert stage.id text k.shared.sources))

theorem lookup_loaded_of_notMem {id : String} {stages : List PlannedStage}
    (h : id ∉ stages.map (·.id)) (sources : List (String × String)) :
    (loaded files stages sources).2.lookup id = sources.lookup id := by
  induction stages generalizing sources with
  | nil => rfl
  | cons s rest ih =>
    simp only [List.map_cons, List.mem_cons, not_or] at h
    rw [loaded_cons]
    split
    · rw [ih h.2, Table.lookup_insert_of_ne h.1]
    · rfl

/-- What is read of files is kept for each stage, when no two are kept in the
same place. -/
theorem loaded_of_readable {stages : List PlannedStage}
    (hnodup : (stages.map (·.id)).Nodup)
    (hread : Readable files (stages.map (·.stage)))
    (sources : List (String × String)) :
    (loaded files stages sources).1 = .ok () ∧ ∀ s ∈ stages, ∃ text,
      files.readText (.ofText s.stage.path) = .ok text ∧
      (loaded files stages sources).2.lookup s.id = some text := by
  induction stages generalizing sources with
  | nil => exact ⟨rfl, by simp⟩
  | cons s rest ih =>
    obtain ⟨hs, hrest⟩ := List.forall_mem_cons.mp hread
    obtain ⟨hfresh, hnodup⟩ := List.nodup_cons.mp hnodup
    obtain ⟨text, htext⟩ :
        ∃ text, files.readText (.ofText s.stage.path) = .ok text := hs
    rw [loaded_cons, htext]
    dsimp only
    obtain ⟨hok, hkept⟩ := ih hnodup hrest (Table.insert s.id text sources)
    refine ⟨hok, List.forall_mem_cons.mpr ⟨⟨text, htext, ?_⟩, hkept⟩⟩
    rw [lookup_loaded_of_notMem hfresh, Table.lookup_insert_self]

namespace InStep

/-! ## Parts of methods -/

theorem reach (m : Method) (field : String) (holdings : Holdings) :
    InStep gl gl' files texts []
      (Binding.reach plan m field holdings : Work σ Unit)
      (Binding.reach plan.reloading m field holdings : Work τ Unit) := by
  show InStep gl gl' files texts [] (Binding.reach plan m field holdings)
    (Binding.reach plan m field holdings)
  unfold Binding.reach
  cases hindrance? plan m field holdings with
  | none => exact pure ()
  | some e => exact fail e

theorem seenProgram (m : Method) (self : String) :
    InStep gl gl' files texts []
      (Binding.seenProgram plan m self : Work σ Int)
      (Binding.seenProgram plan.reloading m self : Work τ Int) := by
  show InStep gl gl' files texts [] (Binding.seenProgram plan m self)
    (Binding.seenProgram plan m self)
  unfold Binding.seenProgram
  refine shared_bind fun b sources documentation => ?_
  cases m.meaning plan with
  | theInstance => exact bind (instanceOf self) fun i => pure _
  | theClass | shadowed | undefined name => exact pure _

theorem forgetProgram (m : Method) (self : String) :
    InStep gl gl' files texts []
      (Binding.forgetProgram plan m self : Work σ Unit)
      (Binding.forgetProgram plan.reloading m self : Work τ Unit) := by
  show InStep gl gl' files texts [] (Binding.forgetProgram plan m self)
    (Binding.forgetProgram plan m self)
  unfold Binding.forgetProgram
  cases m.meaning plan with
  | theInstance => exact bind (instanceOf self) fun i => keep self _
  | theClass | shadowed | undefined name => exact share fun _ _ _ => rfl

theorem performAll {calls : List GL.Call}
    (h : ∀ c ∈ calls, c.passesText = false) :
    InStep gl gl' files texts [] (Binding.performAll gl calls)
      (Binding.performAll gl' calls) := by
  unfold Binding.performAll
  induction calls with
  | nil => exact pure ()
  | cons c rest ih =>
    obtain ⟨hc, hrest⟩ := List.forall_mem_cons.mp h
    exact bind (bind (call hc) fun _ => pure ()) fun _ => ih hrest

/-! ## Compiling -/

theorem attachStages (hname : Named plan) (program : Int)
    (stages : List PlannedStage) (holdings : Holdings)
    (htext : ∀ s ∈ stages, ∀ sources sources', texts sources sources' →
      sources.lookup s.id = some s.stage.text ∧ ∃ text,
        files.readText (.ofText s.stage.path) = .ok text ∧
        sources'.lookup s.id = some text) :
    InStep gl gl' files texts (stages.map fun s => s.stage)
      (Binding.attachStages gl plan program holdings stages)
      (Binding.attachStages gl' plan.reloading program holdings stages) := by
  have hname' : Named plan.reloading := hname
  induction stages generalizing holdings with
  | nil => exact pure []
  | cons s rest ih =>
    obtain ⟨hs, hrest⟩ := List.forall_mem_cons.mp htext
    simp only [Binding.attachStages, reach_of_named hname,
      reach_of_named hname', pure_bind]
    refine feeding hs fun shader => ?_
    refine bind (call rfl) fun _ => bind (call rfl) fun _ => ?_
    exact bind_quiet (ih _ hrest) fun shaders => pure _

theorem releaseStages (program : Int) (shaders : List Int) :
    InStep gl gl' files texts [] (Binding.releaseStages gl program shaders)
      (Binding.releaseStages gl' program shaders) := by
  induction shaders with
  | nil => exact pure ()
  | cons shader rest ih =>
    unfold Binding.releaseStages
    exact bind (call rfl) fun _ => bind (call rfl) fun _ => ih

theorem resolveLocations {ask : String → Act (Session σ) Int}
    {ask' : String → Act (Session τ) Int}
    (hask : ∀ name, InStep gl gl' files texts []
      (Act.onFirst (ask name) : Work σ Int) (Act.onFirst (ask' name)))
    (names : List (String × String)) :
    InStep gl gl' files texts [] (Binding.resolveLocations ask names)
      (Binding.resolveLocations ask' names) := by
  induction names with
  | nil => exact pure ()
  | cons name rest ih =>
    unfold Binding.resolveLocations
    exact bind (hask name.1) fun location => bind (share fun _ _ _ => rfl)
      fun _ => ih

theorem compileReady (hname : Named plan)
    (htext : ∀ s ∈ plan.stages, ∀ sources sources', texts sources sources' →
      sources.lookup s.id = some s.stage.text ∧ ∃ text,
        files.readText (.ofText s.stage.path) = .ok text ∧
        sources'.lookup s.id = some text) :
    InStep gl gl' files texts (plan.stages.map fun s => s.stage)
      (Binding.compileReady gl plan)
      (Binding.compileReady gl' plan.reloading) := by
  unfold Binding.compileReady
  refine bind (call rfl) fun program => ?_
  refine bind_quiet (attachStages hname program plan.stages _ htext)
    fun shaders => ?_
  refine bind (call rfl) fun _ => bind (call rfl) fun log => ?_
  refine bind (write _ _) fun _ => ?_
  refine bind (releaseStages program shaders) fun _ => ?_
  refine bind (reach _ _ _) fun _ => bind (share fun _ _ _ => rfl) fun _ => ?_
  exact bind (resolveLocations (fun _ => call rfl) _) fun _ =>
    resolveLocations (fun _ => call rfl) _

/-- One class takes the texts that it has, and the other reads them first. -/
theorem compileShader (hname : Named plan)
    (hreload : plan.options.reload = false)
    (hnodup : (plan.stages.map (·.id)).Nodup)
    (hread : Readable files (plan.stages.map (·.stage))) :
    InStep gl gl' files (fun sources _ => Embedded plan sources)
      (plan.stages.map (·.stage)) (Binding.compileShader gl plan)
      (Binding.compileShader gl' plan.reloading) := by
  have hname' : Named plan.reloading := hname
  have hready : InStep gl gl' files (Supplied plan files)
      (plan.stages.map (·.stage)) (Binding.compileReady gl plan)
      (Binding.compileReady gl' plan.reloading) :=
    compileReady hname fun s hs sources sources' h => h s hs
  have hfirst :
      Binding.compileShader gl plan = Binding.compileReady gl plan := by
    rw [compileShader_eq, hreload, if_neg Bool.false_ne_true]
  have hsecond : Binding.compileShader gl' plan.reloading =
      Binding.loadStages plan.stages >>= fun _ =>
        Binding.compileReady gl' plan.reloading := by
    have hreload' : plan.reloading.options.reload = true := rfl
    rw [compileShader_eq, if_pos hreload', reach_of_named hname', pure_bind]
    rfl
  have hloading : (Binding.loadStages plan.stages : Work τ Unit).Records gl' :=
    .silent (fun p => by rw [loadStages_run]) fun p => by rw [loadStages_run]
  rw [hfirst, hsecond]
  -- Reading files asks the device for nothing, so the traces are those of
  -- `compileReady`, from states that have both texts of each stage.
  refine ⟨hready.records, hloading.bind fun _ => hready.records', ?_⟩
  rintro p ⟨s, k⟩ hlog hk
  obtain ⟨hok, hkept⟩ := loaded_of_readable hnodup hread k.shared.sources
  have hrun := loadStages_run plan.stages s k
  rw [hk.files_eq, hok] at hrun
  generalize (loaded files plan.stages k.shared.sources).2 = sources
    at hrun hkept
  have hsilent : (Binding.loadStages plan.stages).said (s, k) = [] :=
    Act.said_eq (by rw [hrun, List.append_nil])
  rw [hloading.said_bind (fun _ => hready.records'), Act.bind_eq, hsilent, hrun,
    List.nil_append]
  have hsupplied : Supplied plan files p.2.shared.sources sources :=
    fun stage hs => ⟨hk.texts stage hs, hkept stage hs⟩
  have halong := hready.along p (s, k.withSources sources) hlog
    (hk.withSources hsupplied)
  exact halong.mono fun h => ⟨h.result, h.log,
    h.paired.mono fun htexts stage hs => (htexts stage hs).1⟩

/-! ## Sharing the program -/

theorem acquire :
    InStep gl gl' files texts [] (References.acquire references : Work σ Nat)
      (References.acquire references : Work τ Nat) := by
  rw [acquire_eq, acquire_eq]
  exact shared_bind fun b sources documentation =>
    bind (share fun _ _ _ => rfl) fun _ => pure _

theorem release {x : Work σ Unit} {y : Work τ Unit}
    (h : InStep gl gl' files texts [] x y) :
    InStep gl gl' files texts [] (References.release references x)
      (References.release references y) := by
  rw [release_eq, release_eq]
  refine shared_bind fun b sources documentation => ?_
  dsimp only [Shared.withTexts]
  cases b.references.count with
  | zero => exact bind (write _ _) fun _ => pure _
  | succ n =>
    have hcount : InStep gl gl' files texts []
        (shared >>= fun b => Pure.pure b.references.count : Work σ Nat)
        (shared >>= fun b => Pure.pure b.references.count : Work τ Nat) :=
      shared_bind fun _ _ _ => pure _
    refine bind (share fun _ _ _ => rfl) fun _ => ?_
    by_cases hn : n = 0
    · simp only [hn, if_true]
      exact bind h fun _ => hcount
    · simp only [hn, if_false]
      exact hcount

theorem releaseProgram :
    InStep gl gl' files texts [] (Binding.releaseProgram gl plan)
      (Binding.releaseProgram gl' plan.reloading) := by
  unfold Binding.releaseProgram
  exact bind (reach _ _ _) fun _ => shared_bind fun b sources documentation =>
    bind (call rfl) fun _ => share fun _ _ _ => rfl

theorem dispose :
    InStep gl gl' files texts [] (Binding.dispose gl plan)
      (Binding.dispose gl' plan.reloading) := by
  unfold Binding.dispose
  exact bind (reach _ _ _) fun _ => bind (release releaseProgram) fun _ => pure _

section Compiling

variable (hfree : NameFree plan) (hreload : plan.options.reload = false)
  (hnodup : (plan.stages.map (·.id)).Nodup)
  (hread : Readable files (plan.stages.map (·.stage)))

include hfree hreload hnodup hread

/-- A class that is not found by its name compiles nothing. -/
theorem compile (self : String) :
    InStep gl gl' files (fun sources _ => Embedded plan sources)
      (plan.stages.map (·.stage)) (Binding.compile gl plan self)
      (Binding.compile gl' plan.reloading self) := by
  obtain hname | ⟨name, hname⟩ := hfree.named_or_unnamed
  · unfold Binding.compile
    refine bind (reach _ _ _) fun _ => bind (seenProgram _ _) fun program => ?_
    by_cases h : program = 0
    · simp only [h, if_true]
      exact bind_quiet (compileShader hname hreload hnodup hread) fun _ =>
        bind acquire fun _ => pure _
    · simp only [h, if_false]
      exact (bind acquire fun _ => pure _).lift
  · have hname' : Unnamed plan.reloading name := hname
    simp only [Binding.compile, reach_of_unnamed hname,
      reach_of_unnamed hname', Act.fail_bind]
    exact (fail _).lift

theorem recompile (self : String) :
    InStep gl gl' files (fun sources _ => Embedded plan sources)
      (plan.stages.map (·.stage)) (Binding.recompile gl plan self)
      (Binding.recompile gl' plan.reloading self) := by
  unfold Binding.recompile
  refine bind (reach _ _ _) fun _ => bind (seenProgram _ _) fun program => ?_
  refine bind (call rfl) fun _ => bind (forgetProgram _ _) fun _ => ?_
  exact compile hfree hreload hnodup hread self

end Compiling

/-! ## Parameters and drawing -/

theorem setParameter (self name : String) (value : Value) :
    InStep gl gl' files texts []
      (Binding.setParameter plan self name value : Work σ Unit)
      (Binding.setParameter plan.reloading self name value) := by
  unfold Binding.setParameter
  refine bind (reach _ _ _) fun _ => bind (ofExcept _) fun u => ?_
  exact bind (ofExcept _) fun stored => bind (instanceOf self) fun i =>
    keep self _

theorem getParameter (self name : String) (expected : Option Expected) :
    InStep gl gl' files texts []
      (Binding.getParameter plan self name expected : Work σ Stored)
      (Binding.getParameter plan.reloading self name expected) := by
  unfold Binding.getParameter
  refine bind (reach _ _ _) fun _ => bind (ofExcept _) fun u => ?_
  refine bind (instanceOf self) fun i => ?_
  cases expected with
  | none => exact pure _
  | some type =>
    dsimp only
    split
    · exact pure _
    · exact fail _

theorem getLocation (name : String) :
    InStep gl gl' files texts [] (Binding.getLocation plan name : Work σ Int)
      (Binding.getLocation plan.reloading name) := by
  show InStep gl gl' files texts [] (Binding.getLocation plan name)
    (Binding.getLocation plan name)
  unfold Binding.getLocation
  refine bind (reach _ _ _) fun _ => ?_
  cases identifierNamed? plan name with
  | none => exact fail _
  | some id =>
    have hlocation : InStep gl gl' files texts []
        (shared >>= fun b => Pure.pure (locationOf b id) : Work σ Int)
        (shared >>= fun b => Pure.pure (locationOf b id) : Work τ Int) :=
      shared_bind fun _ _ _ => pure _
    dsimp only
    split
    · exact fail _
    · exact hlocation

theorem shaderId (self : String) :
    InStep gl gl' files texts [] (Binding.shaderId plan self : Work σ Int)
      (Binding.shaderId plan.reloading self) := by
  unfold Binding.shaderId
  refine bind (reach _ _ _) fun _ => bind (seenProgram _ _) fun program => ?_
  split
  · exact fail _
  · exact pure _

theorem useShader (self : String) :
    InStep gl gl' files texts [] (Binding.useShader gl plan self)
      (Binding.useShader gl' plan.reloading self) := by
  unfold Binding.useShader
  refine bind (reach _ _ _) fun _ => bind (seenProgram _ _) fun program => ?_
  refine shared_bind fun b sources documentation => ?_
  refine bind (instanceOf self) fun i => performAll ?_
  intro c hc
  rw [List.cons_append, List.mem_cons, List.mem_append] at hc
  rcases hc with rfl | htexture | hattribute
  · rfl
  · obtain ⟨u, -, hu⟩ := List.mem_flatMap.mp htexture
    exact passesText_of_mem_textureCalls hu
  · obtain ⟨a, -, rfl⟩ := List.mem_map.mp hattribute
    rfl

theorem passUniforms (self : String) :
    InStep gl gl' files texts [] (Binding.passUniforms gl plan self)
      (Binding.passUniforms gl' plan.reloading self) := by
  show InStep gl gl' files texts [] (Binding.passUniforms gl plan self)
    (Binding.passUniforms gl' plan self)
  unfold Binding.passUniforms
  refine shared_bind fun b sources documentation => ?_
  refine bind (instanceOf self) fun i => bind (performAll ?_) fun _ => ?_
  · intro c hc
    obtain ⟨u, -, hu⟩ := List.mem_filterMap.mp hc
    exact passesText_of_passCall? hu
  · split
    · exact fail _
    · exact pure _

end InStep

end Binding

end ShaderBindings
