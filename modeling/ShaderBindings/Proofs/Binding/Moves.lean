import ShaderBindings.Proofs.Binding.Lifetime
import ShaderBindings.Proofs.Binding.Parameters

/-!
# Binding — Moves

What methods can do besides storing values, whatever the device answers, and
wherever a call fails. `Moves` is the relation between the states before and
after: nothing is done to an instance, and a location changes only when the
device has told it. There is one rule for each way of building methods, as for
their calls.
-/

/-! ## Locations that were told -/

namespace ShaderBindings.GL

/-- A variable that has a location. -/
inductive Target
  | uniform (name : String)
  | attribute (name : String)
  deriving DecidableEq, Repr

/-- The location that the device has told, and of what. -/
def Event.told? (e : Event) : Option (Target × Int) :=
  match e.call, e.result with
  | .uniformLocation _ name, .ok location => some (.uniform name, location)
  | .attributeLocation _ name, .ok location => some (.attribute name, location)
  | _, _ => none

/-- The location that the device has told last; -1 if it has told none. -/
def lastTold (es : List Event) (target : Target) : Int :=
  ((es.filterMap Event.told?).reverse.lookup target).getD (-1)

section LastTold

variable {es : List Event} {e : Event} {target other : Target} {location : Int}

theorem lastTold_append_of_none (h : e.told? = none) :
    lastTold (es ++ [e]) target = lastTold es target := by
  simp [lastTold, h]

theorem lastTold_append_self (h : e.told? = some (target, location)) :
    lastTold (es ++ [e]) target = location := by
  simp [lastTold, h]

theorem lastTold_append_of_ne (h : e.told? = some (other, location))
    (hne : target ≠ other) :
    lastTold (es ++ [e]) target = lastTold es target := by
  simp [lastTold, h, List.lookup_cons, beq_false_of_ne hne]

end LastTold

end ShaderBindings.GL

namespace ShaderBindings.Binding

variable {σ α β : Type} {plan : Plan} {k k' k'' : State}
variable {es es' : List GL.Event}

/-- What has a location, with the identifiers under which locations are kept. -/
def targets (plan : Plan) : List (GL.Target × String) :=
  (uniformIds plan).map (fun (name, id) => (.uniform name, id)) ++
  (attributeIds plan).map (fun (name, id) => (.attribute name, id))

/-- The state with another location for an identifier. -/
def State.withLocation (k : State) (id : String) (location : Int) : State :=
  k.withLocations (Table.insert id location k.shared.locations)

/-! ## Moves -/

/-- From one state to another by calls and by changes to what is shared. -/
inductive Moves (plan : Plan) : State → List GL.Event → State → Prop
  | done {k : State} : Moves plan k [] k
  | called {k k' : State} {e : GL.Event} {es : List GL.Event}
      (he : e.told? = none) (ht : Moves plan k es k') :
    Moves plan k (e :: es) k'
  /-- Something else than a location is changed. -/
  | changed {k k' : State} {b : Shared} {es : List GL.Event}
      (hb : b.locations = k.shared.locations)
      (ht : Moves plan { k with shared := b } es k') :
    Moves plan k es k'
  /-- A location is told and kept. -/
  | told {k k' : State} {e : GL.Event} {es : List GL.Event}
      {target : GL.Target} {id : String} {location : Int}
      (he : e.told? = some (target, location)) (hid : (target, id) ∈ targets plan)
      (ht : Moves plan (k.withLocation id location) es k') :
    Moves plan k (e :: es) k'

namespace Moves

theorem trans (h : Moves plan k es k') (h' : Moves plan k' es' k'') :
    Moves plan k (es ++ es') k'' := by
  induction h with
  | done => exact h'
  | called he _ ih => exact .called he (ih h')
  | changed hb _ ih => exact .changed hb (ih h')
  | told he hid _ ih => exact .told he hid (ih h')

/-- Nothing is done to an instance. -/
theorem instances_eq (h : Moves plan k es k') : k'.instances = k.instances := by
  induction h with
  | done => rfl
  | called _ _ ih | changed _ _ ih | told _ _ _ ih => exact ih

theorem instanceNamed_eq (h : Moves plan k es k') (self : String) :
    k'.instanceNamed plan self = k.instanceNamed plan self := by
  unfold State.instanceNamed
  rw [h.instances_eq]

end Moves

/-! ## Methods that move -/

/-- The act does nothing but move. -/
def Moving (gl : GL.Device σ) (plan : Plan) (x : Work σ α) : Prop :=
  ∀ k, x.Makes gl k fun es _ k' => Moves plan k es k'

namespace Moving

variable {gl : GL.Device σ} {x : Work σ α} {f : α → Work σ β}

theorem pure (a : α) : Moving gl plan (Pure.pure a : Work σ α) :=
  fun _ => .pure .done

theorem fail (e : Error) : Moving gl plan (Act.fail e : Work σ α) :=
  fun _ => .fail .done

theorem bind (hx : Moving gl plan x) (hf : ∀ a, Moving gl plan (f a)) :
    Moving gl plan (x >>= f) := by
  intro k
  refine .bind (hx k) ?_ ?_
  · intro es a k' h
    exact (hf a k').mono fun _ _ _ h' => h.trans h'
  · intro es e k' h
    exact h

theorem get : Moving gl plan (Act.get : Work σ (Session σ × State)) :=
  fun _ s => ⟨[], _, s, _, rfl, by simp, by simp, .done⟩

theorem call {call : GL.Call} (h : ∀ result, GL.Event.told? ⟨call, result⟩ = none) :
    Moving gl plan (Act.onFirst (gl.perform call)) := fun _ =>
  .perform (fun _ => .called (h _) .done) fun _ _ => .called (h _) .done

theorem write (level : Log.Level) (message : String) :
    Moving gl plan (Act.onFirst (Session.write level message) : Work σ Unit) :=
  fun k s => ⟨[], _, { s with log := s.log ++ [⟨level, message⟩] }, k, rfl,
    by simp, by simp, .done⟩

/-- Something else than a location is changed. -/
theorem share {f : Shared → Shared} (h : ∀ b, (f b).locations = b.locations) :
    Moving gl plan (Binding.share f : Work σ Unit) := fun _ s =>
  ⟨[], _, s, _, rfl, by simp, by simp, .changed (h _) .done⟩

theorem setReferences (r : References) :
    Moving gl plan
      (Act.onSecond (Act.modify (references.set r)) : Work σ Unit) :=
  share (f := fun b => { b with references := r }) fun _ => rfl

theorem ofExcept (r : Except Error α) :
    Moving gl plan (Act.ofExcept r : Work σ α) := by
  cases r with
  | ok a => exact pure a
  | error e => exact fail e

theorem reach (m : Method) (field : String) (holdings : Holdings) :
    Moving gl plan (Binding.reach plan m field holdings : Work σ Unit) := by
  unfold Binding.reach
  split
  · exact pure ()
  · exact fail _

theorem shared : Moving gl plan (Binding.shared : Work σ Shared) :=
  bind get fun _ => pure _

theorem instanceOf (self : String) :
    Moving gl plan (Binding.instanceOf plan self : Work σ Instance) :=
  bind get fun _ => pure _

theorem seenProgram (m : Method) (self : String) :
    Moving gl plan (Binding.seenProgram plan m self : Work σ Int) := by
  unfold Binding.seenProgram
  refine bind shared fun b => ?_
  split
  · exact bind (instanceOf self) fun _ => pure _
  · exact pure _
  · exact pure _
  · exact pure _

theorem forgetProgram (hfree : NameFree plan) (m : Method) (self : String) :
    Moving gl plan (Binding.forgetProgram plan m self : Work σ Unit) := by
  have hmeaning : m.meaning plan ≠ .theInstance := by
    obtain hname | ⟨name, h⟩ := hfree.named_or_unnamed
    · simp [hname m]
    · simp [h m]
  unfold Binding.forgetProgram
  split
  · exact absurd ‹_› hmeaning
  · exact share fun _ => rfl
  · exact share fun _ => rfl
  · exact share fun _ => rfl

/-! ## Compiling -/

theorem loadStages (stages : List PlannedStage) :
    Moving gl plan (Binding.loadStages stages : Work σ Unit) := by
  induction stages with
  | nil => exact pure ()
  | cons s rest ih =>
    unfold Binding.loadStages
    exact bind get fun _ => bind (ofExcept _) fun _ =>
      bind (share fun _ => rfl) fun _ => ih

theorem attachStages (program : Int) (stages : List PlannedStage)
    (holdings : Holdings) :
    Moving gl plan
      (Binding.attachStages gl plan program holdings stages) := by
  induction stages generalizing holdings with
  | nil => exact pure []
  | cons s rest ih =>
    unfold Binding.attachStages
    refine bind (call fun _ => rfl) fun shader => ?_
    refine bind (reach _ _ _) fun _ => ?_
    refine bind shared fun b => ?_
    refine bind (call fun _ => rfl) fun _ => ?_
    refine bind (call fun _ => rfl) fun _ => ?_
    refine bind (call fun _ => rfl) fun _ => ?_
    exact bind (ih _) fun _ => pure _

theorem releaseStages (program : Int) (shaders : List Int) :
    Moving gl plan (Binding.releaseStages gl program shaders) := by
  induction shaders with
  | nil => exact pure ()
  | cons shader rest ih =>
    unfold Binding.releaseStages
    exact bind (call fun _ => rfl) fun _ => bind (call fun _ => rfl) fun _ => ih

/-- Each answer is kept under the identifier of the variable it is for. -/
theorem resolveLocations (target : String → GL.Target)
    {ask : String → Act (Session σ) Int}
    (hask : ∀ name (k : State), (Act.onFirst (ask name)).Makes gl k
      fun es r k' => k' = k ∧ ∃ e, es = [e] ∧ match r with
        | .ok location => e.told? = some (target name, location)
        | .error _ => e.told? = none)
    (names : List (String × String))
    (hnames : ∀ q ∈ names, (target q.1, q.2) ∈ targets plan) :
    Moving gl plan (Binding.resolveLocations ask names) := by
  induction names with
  | nil => exact pure ()
  | cons q rest ih =>
    obtain ⟨hq, hrest⟩ := List.forall_mem_cons.mp hnames
    unfold Binding.resolveLocations
    intro k
    refine .bind (hask q.1 k) ?_ ?_
    · rintro es location k' ⟨rfl, e, rfl, he⟩
      -- what is told is kept before anything else is asked for
      refine .modify_bind ((ih hrest _).mono ?_)
      intro es r k'' h
      exact .told he hq h
    · rintro es error k' ⟨rfl, e, rfl, he⟩
      exact .called he .done

theorem resolveUniforms (program : Int) :
    Moving gl plan (Binding.resolveLocations
      (fun name => gl.perform (.uniformLocation program name))
      (uniformIds plan)) := by
  refine resolveLocations .uniform ?_ _ ?_
  · intro name k
    exact .perform (fun _ => ⟨rfl, _, rfl, rfl⟩) fun _ _ => ⟨rfl, _, rfl, rfl⟩
  · intro q hq
    exact List.mem_append_left _ (List.mem_map_of_mem hq)

theorem resolveAttributes (program : Int) :
    Moving gl plan (Binding.resolveLocations
      (fun name => gl.perform (.attributeLocation program name))
      (attributeIds plan)) := by
  refine resolveLocations .attribute ?_ _ ?_
  · intro name k
    exact .perform (fun _ => ⟨rfl, _, rfl, rfl⟩) fun _ _ => ⟨rfl, _, rfl, rfl⟩
  · intro q hq
    exact List.mem_append_right _ (List.mem_map_of_mem hq)

theorem compileReady : Moving gl plan (Binding.compileReady gl plan) := by
  unfold Binding.compileReady
  refine bind (call fun _ => rfl) fun program => ?_
  refine bind (attachStages _ _ _) fun shaders => ?_
  refine bind (call fun _ => rfl) fun _ => ?_
  refine bind (call fun _ => rfl) fun log => ?_
  refine bind (write _ _) fun _ => ?_
  refine bind (releaseStages _ _) fun _ => ?_
  refine bind (reach _ _ _) fun _ => ?_
  refine bind (share fun _ => rfl) fun _ => ?_
  exact bind (resolveUniforms _) fun _ => resolveAttributes _

theorem compileShader : Moving gl plan (Binding.compileShader gl plan) := by
  rw [compileShader_eq]
  cases plan.options.reload with
  | false => exact compileReady
  | true =>
    exact bind (reach _ _ _) fun _ => bind (loadStages _) fun _ => compileReady

/-! ## Sharing the program -/

theorem acquire :
    Moving gl plan (References.acquire references : Work σ Nat) := by
  unfold References.acquire
  exact bind get fun _ => bind (setReferences _) fun _ => pure _

theorem release {cleanup : Work σ Unit} (h : Moving gl plan cleanup) :
    Moving gl plan (References.release references cleanup) := by
  unfold References.release
  refine bind get ?_
  rintro ⟨s, k⟩
  dsimp only
  split
  · exact bind (write _ _) fun _ => pure _
  · refine bind (setReferences _) fun _ => ?_
    split
    · exact bind h fun _ => bind get fun _ => pure _
    · exact bind get fun _ => pure _

theorem releaseProgram : Moving gl plan (Binding.releaseProgram gl plan) := by
  unfold Binding.releaseProgram
  refine bind (reach _ _ _) fun _ => bind shared fun b => ?_
  exact bind (call fun _ => rfl) fun _ => share fun _ => rfl

theorem compile (self : String) :
    Moving gl plan (Binding.compile gl plan self) := by
  unfold Binding.compile
  refine bind (reach _ _ _) fun _ => bind (seenProgram _ _) fun program => ?_
  split
  · exact bind compileShader fun _ => bind acquire fun _ => pure _
  · exact bind acquire fun _ => pure _

theorem recompile (hfree : NameFree plan) (self : String) :
    Moving gl plan (Binding.recompile gl plan self) := by
  unfold Binding.recompile
  refine bind (reach _ _ _) fun _ => bind (seenProgram _ _) fun program => ?_
  refine bind (call fun _ => rfl) fun _ => ?_
  exact bind (forgetProgram hfree _ _) fun _ => compile self

theorem dispose : Moving gl plan (Binding.dispose gl plan) := by
  unfold Binding.dispose
  refine bind (reach _ _ _) fun _ => ?_
  exact bind (release releaseProgram) fun _ => pure _

/-! ## Drawing -/

/-- The call looks up no location. -/
def isPlain : GL.Call → Bool
  | .uniformLocation .. | .attributeLocation .. => false
  | _ => true

theorem told?_of_isPlain {call : GL.Call} (h : isPlain call = true)
    (result : Except ExternalFault call.Reply) :
    GL.Event.told? ⟨call, result⟩ = none := by
  cases call <;> first | rfl | cases h

theorem performAll {calls : List GL.Call} (h : ∀ c ∈ calls, isPlain c = true) :
    Moving gl plan (Binding.performAll gl calls) := by
  unfold Binding.performAll
  induction calls with
  | nil => exact pure ()
  | cons c rest ih =>
    obtain ⟨hc, hrest⟩ := List.forall_mem_cons.mp h
    exact bind (bind (call (told?_of_isPlain hc)) fun _ => pure _) fun _ =>
      ih hrest

theorem isPlain_of_mem_textureCalls {i : Instance} {u : PlannedUniform}
    {c : GL.Call} (h : c ∈ textureCalls i u) : isPlain c = true := by
  unfold textureCalls at h
  split at h
  · obtain rfl | rfl : c = _ ∨ c = _ := by simpa using h
    · rfl
    · rfl
  · cases h

theorem useShader (self : String) :
    Moving gl plan (Binding.useShader gl plan self) := by
  unfold Binding.useShader
  refine bind (reach _ _ _) fun _ => bind (seenProgram _ _) fun program => ?_
  refine bind shared fun b => bind (instanceOf _) fun i => performAll ?_
  intro c hc
  rw [List.cons_append, List.mem_cons, List.mem_append] at hc
  rcases hc with rfl | htexture | hattribute
  · rfl
  · obtain ⟨u, -, hu⟩ := List.mem_flatMap.mp htexture
    exact isPlain_of_mem_textureCalls hu
  · obtain ⟨a, -, rfl⟩ := List.mem_map.mp hattribute
    rfl

theorem isPlain_of_passCall? {b : Shared} {i : Instance} {u : PlannedUniform}
    {c : GL.Call} (h : passCall? b i u = some c) : isPlain c = true := by
  unfold passCall? at h
  split at h
  · cases h
    rfl
  · obtain ⟨upload, -, rfl⟩ := Option.map_eq_some_iff.mp h
    rfl

theorem passUniforms (self : String) :
    Moving gl plan (Binding.passUniforms gl plan self) := by
  unfold Binding.passUniforms
  refine bind shared fun b => bind (instanceOf _) fun i => ?_
  refine bind (performAll ?_) fun _ => ?_
  · intro c hc
    obtain ⟨u, -, hu⟩ := List.mem_filterMap.mp hc
    exact isPlain_of_passCall? hu
  · split
    · exact fail _
    · exact pure _

end Moving

end ShaderBindings.Binding
