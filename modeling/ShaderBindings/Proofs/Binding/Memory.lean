import Mathlib.Logic.Function.Basic
import ShaderBindings.Binding.Fields
import ShaderBindings.Proofs.Binding.Store
import ShaderBindings.Proofs.Conversion.Form

/-!
# Binding — Memory

What instances hold after anything has been done with them, in any order, and
whatever the device answered. The history says it without a plan: by the name of
a uniform, the value that was written last, and by what the device was asked
for, the location that it told last. The fields and the locations that are kept
under identifiers agree with the history at any time.
-/

namespace ShaderBindings.Binding

variable {σ : Type} {spec : Spec} {plan : Plan} {gl : GL.Device σ}
variable {k k' : State} {es es' : List GL.Event}

/-! ## Actions -/

/-- What can be done with instances, by their names. -/
inductive Action
  | use (u : Use)
  | store (self name : String) (value : Value)
  /-- The transpose flag is set. -/
  | orient (self : String) (value : Value)
  | draw (self : String)
  | pass (self : String)

namespace Action

/-- What is done. -/
def act (gl : GL.Device σ) (plan : Plan) : Action → Work σ Unit
  | use u => u.act gl plan
  | store self name value => setParameter plan self name value
  | orient self value => setTranspose plan self value
  | draw self => useShader gl plan self
  | pass self => passUniforms gl plan self

end Action

/-- Actions one after the other, those that raise being no end. Gives what came
of each. -/
def actAll (gl : GL.Device σ) (plan : Plan) :
    List Action → Work σ (List (Except Error Unit)) :=
  Act.collect fun a => Act.attempt (a.act gl plan)

/-! ## What is remembered -/

/-- The type of the uniform of a name. -/
def typeNamed? (spec : Spec) (name : String) : Option UniformType :=
  (spec.uniforms.find? fun v => v.name == name).bind fun v =>
    UniformType.ofCode? v.tag

/-- What is remembered of an instance: its transpose flag, and the value of each
uniform by its name. -/
structure Memory where
  transpose : Value
  value : String → Option Stored

namespace Memory

/-- What is remembered of a new instance. -/
def initial (spec : Spec) : Memory where
  transpose := .bool spec.options.transpose
  value := fun name => (typeNamed? spec name).map UniformType.defaultValue

/-- A value was written, as the converter for the type of the uniform gives
it. -/
def write (m : Memory) (spec : Spec) (name : String) (value : Value) : Memory :=
  let stored? := (typeNamed? spec name).bind fun t =>
    (t.converter.convert value).toOption
  { m with value := Function.update m.value name stored? }

end Memory

/-- What is remembered of each instance. -/
abbrev Memories := String → Memory

namespace Memories

/-- What is remembered after an action, by what came of it. -/
def note (ms : Memories) (spec : Spec) : Action → Except Error Unit → Memories
  | .use (.create self), .ok _ => Function.update ms self (.initial spec)
  | .store self name value, .ok _ =>
    Function.update ms self ((ms self).write spec name value)
  | .orient self value, .ok _ =>
    Function.update ms self { ms self with transpose := value }
  | _, _ => ms

/-- What is remembered after actions, by what came of each. -/
def after (ms : Memories) (spec : Spec) :
    List Action → List (Except Error Unit) → Memories
  | a :: actions, r :: results => (ms.note spec a r).after spec actions results
  | _, _ => ms

end Memories

/-! ## Agreement -/

/-- What an instance holds agrees with what is remembered of it, and has the
form that drawing needs. -/
structure Holds (plan : Plan) (m : Memory) (i : Instance) : Prop where
  transpose : i.transpose = m.transpose
  value : ∀ u ∈ plan.uniforms, m.value u.name = some (fieldOf i u)
  fits : ∀ u ∈ plan.uniforms, u.type.Fits (fieldOf i u)

/-- A location that is kept for the only variable of a kind and a name is the
one that the device told last. -/
def Located (plan : Plan) (es : List GL.Event) (k : State) : Prop :=
  ∀ target id, (target, id) ∈ targets plan →
    (∀ id', (target, id') ∈ targets plan → id' = id) →
    locationOf k.shared id = GL.lastTold es target

/-- A state agrees with its history: the calls so far, and what is remembered
of each instance. -/
structure Agrees (plan : Plan) (es : List GL.Event) (ms : Memories)
    (k : State) : Prop where
  holds : ∀ self, Holds plan (ms self) (k.instanceNamed plan self)
  located : Located plan es k

/-! ## Locations -/

theorem targets_ids (plan : Plan) :
    (targets plan).map Prod.snd = plan.located.map Prod.snd := by
  simp [targets, uniformIds, attributeIds, Plan.located, Function.comp_def]

/-- An identifier is that of one variable. -/
theorem target_eq_of_id_eq (hplaces : plan.Places spec)
    {target target' : GL.Target} {id : String} (h : (target, id) ∈ targets plan)
    (h' : (target', id) ∈ targets plan) : target = target' := by
  have hnodup : ((targets plan).map Prod.snd).Nodup := by
    rw [targets_ids]
    exact hplaces.ids
  have heq : (target, id) = (target', id) :=
    List.inj_on_of_nodup_map hnodup h h' rfl
  exact congrArg Prod.fst heq

theorem locationOf_withLocation_self (id : String) (location : Int) :
    locationOf (k.withLocation id location).shared id = location := by
  simp [locationOf, State.withLocation, State.withLocations,
    Table.lookup_insert_self]

theorem locationOf_withLocation_of_ne {id id' : String} (h : id' ≠ id)
    (location : Int) : locationOf (k.withLocation id location).shared id' =
      locationOf k.shared id' := by
  simp [locationOf, State.withLocation, State.withLocations,
    Table.lookup_insert_of_ne h]

/-- A location that is told and kept is both in the state and in the history. -/
theorem Located.told (h : Located plan es k) (hplaces : plan.Places spec)
    {e : GL.Event} {target : GL.Target} {id : String} {location : Int}
    (he : e.told? = some (target, location))
    (hid : (target, id) ∈ targets plan) :
    Located plan (es ++ [e]) (k.withLocation id location) := by
  intro target' id' hid' honly
  by_cases hsame : id' = id
  · subst hsame
    rw [target_eq_of_id_eq hplaces hid' hid, locationOf_withLocation_self,
      GL.lastTold_append_self he]
  · -- another identifier is not that of what was told, which has only one
    have hother : target' ≠ target := by
      rintro rfl
      exact hsame (honly id hid).symm
    rw [locationOf_withLocation_of_ne hsame,
      GL.lastTold_append_of_ne he hother]
    exact h target' id' hid' honly

theorem Moves.located (hmoves : Moves plan k es' k') (hplaces : plan.Places spec)
    (h : Located plan es k) : Located plan (es ++ es') k' := by
  induction hmoves generalizing es with
  | done => rwa [List.append_nil]
  | @called k k' e es' he _ ih =>
    rw [List.append_cons]
    refine ih ?_
    intro target id hid honly
    rw [GL.lastTold_append_of_none he]
    exact h target id hid honly
  | @changed k k' b es' hb _ ih =>
    refine ih ?_
    intro target id hid honly
    rw [← h target id hid honly]
    unfold locationOf
    rw [hb]
  | @told k k' e es' target id location he hid _ ih =>
    rw [List.append_cons]
    exact ih (h.told hplaces he hid)

/-! ## Instances -/

section Holding

variable (hplaces : plan.Places spec)
  (hdistinct : (spec.uniforms.map (·.name)).Nodup)

include hplaces hdistinct

theorem typeNamed?_of_mem {u : PlannedUniform} (hu : u ∈ plan.uniforms) :
    typeNamed? spec u.name = some u.type := by
  obtain ⟨v, hv, hname, htype, -⟩ := hplaces.exists_variable hu
  cases hfind : spec.uniforms.find? fun w => w.name == u.name with
  | none =>
    have hnot := List.find?_eq_none.mp hfind v hv
    exact absurd (beq_iff_eq.mpr hname.symm) hnot
  | some w =>
    have hw : w.name = v.name := by
      rw [← hname]
      simpa using List.find?_some hfind
    have hwv : w = v := List.inj_on_of_nodup_map hdistinct
      (List.mem_of_find?_eq_some hfind) hv hw
    unfold typeNamed?
    rw [hfind, hwv]
    exact htype

theorem holds_initial : Holds plan (.initial spec) (.initial plan) where
  transpose := by simp [Instance.initial, Memory.initial, hplaces.options]
  value := by
    intro u hu
    simp only [Memory.initial, typeNamed?_of_mem hplaces hdistinct hu,
      Option.map_some, fieldOf_initial hplaces hu]
  fits := by
    intro u hu
    rw [fieldOf_initial hplaces hu]
    exact u.type.defaultValue_fits

/-- Writing a value under a name, and putting it into the field of the uniform,
come to the same. -/
theorem Holds.write {m : Memory} {i : Instance} (h : Holds plan m i)
    {u : PlannedUniform} (hu : u ∈ plan.uniforms) {value : Value}
    {stored : Stored} (hvalue : u.type.converter.convert value = .ok stored) :
    Holds plan (m.write spec u.name value)
      { i with fields := Table.insert u.id stored i.fields } where
  transpose := h.transpose
  value := by
    intro u' hu'
    by_cases hsame : u' = u
    · subst hsame
      simp [Memory.write, typeNamed?_of_mem hplaces hdistinct hu, hvalue,
        Except.toOption, fieldOf, Table.lookup_insert_self]
    · have hid : u'.id ≠ u.id := fun hid => hsame (hplaces.id_inj hu' hu hid)
      have hname : u'.name ≠ u.name := fun hname =>
        hsame (hplaces.name_inj hdistinct hu' hu hname)
      have hold := h.value u' hu'
      simpa [Memory.write, Function.update_of_ne hname, fieldOf,
        Table.lookup_insert_of_ne hid] using hold
  fits := by
    intro u' hu'
    by_cases hsame : u' = u
    · subst hsame
      simpa [fieldOf, Table.lookup_insert_self] using
        UniformType.convert_fits hvalue
    · have hid : u'.id ≠ u.id := fun hid => hsame (hplaces.id_inj hu' hu hid)
      simpa [fieldOf, Table.lookup_insert_of_ne hid] using h.fits u' hu'

end Holding

/-- When one instance changes, what is remembered of the others is still
right. -/
theorem holds_update {ms : Memories} {m : Memory} {self : String}
    (h : ∀ other, Holds plan (ms other) (k.instanceNamed plan other))
    (hself : Holds plan m (k'.instanceNamed plan self))
    (hothers : ∀ other, other ≠ self →
      k'.instanceNamed plan other = k.instanceNamed plan other) :
    ∀ other, Holds plan (Function.update ms self m other)
      (k'.instanceNamed plan other) := by
  intro other
  by_cases hsame : other = self
  · subst hsame
    rwa [Function.update_self]
  · rw [Function.update_of_ne hsame, hothers other hsame]
    exact h other

/-! ## One action -/

/-- What moves changes nothing that is remembered. -/
theorem Moves.agrees {ms : Memories} (hmoves : Moves plan k es' k')
    (hplaces : plan.Places spec) (h : Agrees plan es ms k) :
    Agrees plan (es ++ es') ms k' where
  holds := by
    intro self
    rw [hmoves.instanceNamed_eq]
    exact h.holds self
  located := hmoves.located hplaces h.located

/-- The act, from every session, ends in one of these ways without a call. -/
theorem makes_of_run {x : Work σ Unit} {P : Except Error Unit → State → Prop}
    (h : ∀ s, ∃ r k', x (s, k) = (r, s, k') ∧ P r k') :
    x.Makes gl k fun es r k' => es = [] ∧ P r k' := by
  intro s
  obtain ⟨r, k', hrun, hp⟩ := h s
  exact ⟨[], r, s, k', hrun, by simp, by simp, rfl, hp⟩

/-- The act, from every session, ends in one state without a call. -/
theorem makes_of_eq {x : Work σ Unit} (k' : State)
    (h : ∀ s, x (s, k) = (.ok (), s, k')) :
    x.Makes gl k fun es r k'' => es = [] ∧ r = .ok () ∧ k'' = k' :=
  makes_of_run fun s => ⟨.ok (), k', h s, rfl, rfl⟩

/-- The state with another transpose flag of an instance. -/
def State.withTranspose (k : State) (plan : Plan) (self : String)
    (transpose : Value) : State :=
  let i := { k.instanceNamed plan self with transpose }
  { k with instances := Table.insert self i k.instances }

section Stepping

variable (hplaces : plan.Places spec)
  (hdistinct : (spec.uniforms.map (·.name)).Nodup) (hclash : Unclashing plan)

include hplaces hdistinct

theorem agrees_withNew {ms : Memories} (h : Agrees plan es ms k) (self : String) :
    Agrees plan es (Function.update ms self (.initial spec))
      (k.withNew plan self) where
  holds := by
    refine holds_update h.holds ?_ ?_
    · rw [instanceNamed_withNew]
      exact holds_initial hplaces hdistinct
    · intro other hne
      simp [State.withNew, State.instanceNamed, Table.lookup_insert_of_ne hne]
  located := h.located

theorem agrees_storing {ms : Memories} {self name : String} {value : Value}
    {r : Except Error Unit} (hs : Storing plan k self name value r k')
    (h : Agrees plan es ms k) :
    Agrees plan es (ms.note spec (.store self name value) r) k' := by
  cases r with
  | error e =>
    rw [hs.eq_of_error]
    exact h
  | ok _ =>
    obtain ⟨u, stored, hu, hvalue, rfl⟩ := hs.of_ok
    obtain ⟨hmem, rfl⟩ := uniformNamed?_eq_some hu
    refine ⟨holds_update h.holds ?_ ?_, h.located⟩
    · rw [instanceNamed_withValue_self]
      exact (h.holds self).write hplaces hdistinct hmem hvalue
    · intro other hne
      exact instanceNamed_withValue_of_ne hne u.id stored

omit hplaces hdistinct in
theorem agrees_withTranspose {ms : Memories} (h : Agrees plan es ms k)
    (self : String) (value : Value) :
    Agrees plan es
      (Function.update ms self { ms self with transpose := value })
      (k.withTranspose plan self value) where
  holds := by
    refine holds_update h.holds ?_ ?_
    · obtain ⟨-, hvalue, hfits⟩ := h.holds self
      simp only [State.withTranspose, State.instanceNamed,
        Table.lookup_insert_self, Option.getD_some]
      exact ⟨rfl, hvalue, hfits⟩
    · intro other hne
      simp [State.withTranspose, State.instanceNamed,
        Table.lookup_insert_of_ne hne]
  located := h.located

include hclash

/-- One action keeps the state and its history in agreement. -/
theorem act_agrees (gl : GL.Device σ) (a : Action) (ms : Memories)
    (k : State) :
    (a.act gl plan).Makes gl k fun es' r k' => ∀ es, Agrees plan es ms k →
      Agrees plan (es ++ es') (ms.note spec a r) k' := by
  -- nothing is remembered of what only moves, even if it fails
  have hmoving {x : Work σ Unit} (hx : Moving gl plan x)
      (ha : ∀ r, ms.note spec a r = ms) :
      x.Makes gl k fun es' r k' => ∀ es, Agrees plan es ms k →
        Agrees plan (es ++ es') (ms.note spec a r) k' := by
    refine (hx k).mono fun es' r k' hmoves es h => ?_
    rw [ha r]
    exact hmoves.agrees hplaces h
  cases a with
  | use u =>
    cases u with
    | create self =>
      refine (makes_of_eq (k.withNew plan self) fun _ => rfl).mono ?_
      rintro es' r k' ⟨rfl, rfl, rfl⟩ es h
      rw [List.append_nil]
      exact agrees_withNew hplaces hdistinct h self
    | edit files =>
      refine (makes_of_eq { k with files } fun _ => rfl).mono ?_
      rintro es' r k' ⟨rfl, rfl, rfl⟩ es h
      rw [List.append_nil]
      exact ⟨h.holds, h.located⟩
    | compile self | enter self => exact hmoving (.compile self) fun _ => rfl
    | recompile self =>
      exact hmoving (.recompile hclash.bound self) fun _ => rfl
    | dispose self | leave self => exact hmoving .dispose fun _ => rfl
  | store self name value =>
    refine (makes_of_run fun s =>
      setParameter_storing hclash self name value s k).mono ?_
    rintro es' r k' ⟨rfl, hs⟩ es h
    rw [List.append_nil]
    exact agrees_storing hplaces hdistinct hs h
  | orient self value =>
    refine (makes_of_eq (k.withTranspose plan self value) fun _ => rfl).mono ?_
    rintro es' r k' ⟨rfl, rfl, rfl⟩ es h
    rw [List.append_nil]
    exact agrees_withTranspose h self value
  | draw self => exact hmoving (.useShader self) fun _ => rfl
  | pass self => exact hmoving (.passUniforms self) fun _ => rfl

/-- Any number of actions do. -/
theorem actAll_agrees (gl : GL.Device σ) (actions : List Action)
    (ms : Memories) (k : State) :
    (actAll gl plan actions).Makes gl k fun es' r k' => ∃ results,
      r = .ok results ∧ ∀ es, Agrees plan es ms k →
        Agrees plan (es ++ es') (ms.after spec actions results) k' := by
  induction actions generalizing ms k with
  | nil =>
    refine .pure ⟨[], rfl, fun es h => ?_⟩
    rwa [List.append_nil]
  | cons a rest ih =>
    refine .attempt_bind (act_agrees hplaces hdistinct hclash gl a ms k) ?_
    intro es₁ r k₁ hstep
    refine .bind (ih (ms.note spec a r) k₁) ?_ ?_
    · rintro es₂ results k₂ ⟨_, ⟨⟩, hrest⟩
      refine .pure ⟨r :: results, rfl, fun es h => ?_⟩
      rw [List.append_nil, ← List.append_assoc]
      exact hrest _ (hstep es h)
    · rintro es₂ e k₂ ⟨results, ⟨⟩, -⟩

end Stepping

/-! ## From the beginning -/

/-- The history before anything has been done. -/
def Memories.initial (spec : Spec) : Memories :=
  fun _ => .initial spec

theorem locationOf_initial (plan : Plan) (documentation : Option String)
    (id : String) :
    locationOf { Shared.initial plan with documentation } id = -1 := by
  unfold locationOf Shared.initial
  induction plan.located with
  | nil => rfl
  | cons entry rest ih =>
    simp only [List.map_cons, List.lookup_cons]
    split
    · rfl
    · exact ih

theorem agrees_initial (hplaces : plan.Places spec)
    (hdistinct : (spec.uniforms.map (·.name)).Nodup)
    (documentation : Option String) (files : File.System) :
    Agrees plan [] (.initial spec)
      { shared := { Shared.initial plan with documentation }, files } where
  holds := fun _ => holds_initial hplaces hdistinct
  located := fun _ id _ _ => locationOf_initial plan documentation id

end ShaderBindings.Binding
