import ShaderBindings.Proofs.Binding.Moves
import ShaderBindings.Proofs.Plan.Placement

/-!
# Binding — Store

The parameters of all instances are a store. What is read is what was written
last, under the same name and for the same instance; what has never been written
reads as the value that uniforms of the type start with; and nothing but writing
changes what is read. A class with a private name is no store: its methods do
not find it.
-/

namespace ShaderBindings.Binding

variable {σ : Type} {spec : Spec} {plan : Plan} {gl : GL.Device σ}
variable {s s' : Session σ} {k k' : State} {self name : String}

/-! ## Uniforms by name -/

theorem uniformNamed?_eq_some {u : PlannedUniform}
    (h : uniformNamed? plan name = some u) :
    u ∈ plan.uniforms ∧ u.name = name := by
  refine ⟨?_, by simpa using List.find?_some h⟩
  exact List.mem_reverse.mp (List.mem_of_find?_eq_some h)

theorem uniformNamed?_of_mem (hplaces : plan.Places spec)
    (hdistinct : (spec.uniforms.map (·.name)).Nodup) {u : PlannedUniform}
    (hu : u ∈ plan.uniforms) : uniformNamed? plan u.name = some u := by
  cases h : uniformNamed? plan u.name with
  | none =>
    exact absurd (List.mem_map_of_mem hu) (uniformNamed?_eq_none_iff.mp h)
  | some u' =>
    obtain ⟨hu', hname⟩ := uniformNamed?_eq_some h
    rw [hplaces.name_inj hdistinct hu' hu hname]

/-- The name of a variable is that of a uniform of its type. -/
theorem uniformNamed?_of_variable (hplaces : plan.Places spec)
    (hdistinct : (spec.uniforms.map (·.name)).Nodup) {v : Variable}
    {t : UniformType} (hv : v ∈ spec.uniforms)
    (ht : UniformType.ofCode? v.tag = some t) :
    ∃ u ∈ plan.uniforms, u.type = t ∧ uniformNamed? plan v.name = some u := by
  obtain ⟨u, hu, hname, htype, -⟩ := hplaces.exists_uniform hv
  refine ⟨u, hu, Option.some.inj (htype.symm.trans ht), ?_⟩
  rw [← hname]
  exact uniformNamed?_of_mem hplaces hdistinct hu

/-! ## Reading -/

/-- A stored value as one reads it who may expect a type. -/
def asExpected (name : String) (stored : Stored) :
    Option Expected → Except Error Stored
  | none => .ok stored
  | some type =>
    if type.holds stored then .ok stored
    else .error (.notLoaded name type.name)

/-- What one reads under a name. -/
def State.read (k : State) (plan : Plan) (self name : String)
    (expected : Option Expected) : Except Error Stored :=
  match uniformNamed? plan name with
  | some u => asExpected name (fieldOf (k.instanceNamed plan self) u) expected
  | none => .error (.unknownUniform name)

theorem getParameter_of_named (hclash : Unclashing plan) (hname : Named plan)
    (self name : String) (expected : Option Expected) (s : Session σ)
    (k : State) : getParameter plan self name expected (s, k) =
      (k.read plan self name expected, s, k) := by
  unfold getParameter State.read uniformNamed
  rw [reach_of_named hname, pure_bind]
  cases hu : uniformNamed? plan name with
  | none =>
    rw [hclash.lookupError_eq]
    rfl
  | some u =>
    cases expected with
    | none => rfl
    | some type =>
      let stored := fieldOf (k.instanceNamed plan self) u
      have hrun : (do
          if type.holds stored then return stored
          else Act.fail (.notLoaded name type.name) : Work σ Stored) (s, k) =
            (asExpected name stored (some type), s, k) := by
        by_cases hholds : type.holds stored = true
        · simp only [asExpected, if_pos hholds]
          rfl
        · simp only [asExpected, if_neg hholds]
          rfl
      exact hrun

theorem getParameter_of_unnamed {other : String} (h : Unnamed plan other)
    (self name : String) (expected : Option Expected) (s : Session σ)
    (k : State) : getParameter plan self name expected (s, k) =
      (.error (.undefinedName other), s, k) := by
  unfold getParameter
  rw [reach_of_unnamed h]
  rfl

/-- What is read is the same where the instances are. -/
theorem getParameter_congr (hfree : Unclashing plan)
    (h : ∀ self, k'.instanceNamed plan self = k.instanceNamed plan self)
    (self name : String) (expected : Option Expected) (s s' : Session σ) :
    (getParameter plan self name expected (s', k')).1 =
      (getParameter plan self name expected (s, k)).1 := by
  obtain hname | ⟨other, hother⟩ := hfree.bound.named_or_unnamed
  · simp only [getParameter_of_named hfree hname, State.read, h]
  · simp only [getParameter_of_unnamed hother]

theorem read_withValue_self {u : PlannedUniform}
    (hu : uniformNamed? plan name = some u) (stored : Stored) :
    (k.withValue plan self u.id stored).read plan self name none =
      .ok stored := by
  unfold State.read
  rw [hu]
  exact congrArg Except.ok (fieldOf_withValue_self u stored)

/-- Two names are those of two uniforms, which have two fields. -/
theorem read_withValue_of_ne (hplaces : plan.Places spec) {u : PlannedUniform}
    (hu : uniformNamed? plan name = some u) {other name' : String}
    (hne : other ≠ self ∨ name' ≠ name) (stored : Stored)
    (expected : Option Expected) :
    (k.withValue plan self u.id stored).read plan other name' expected =
      k.read plan other name' expected := by
  unfold State.read
  cases hu' : uniformNamed? plan name' with
  | none => rfl
  | some u' =>
    obtain ⟨hmem, hname⟩ := uniformNamed?_eq_some hu
    obtain ⟨hmem', hname'⟩ := uniformNamed?_eq_some hu'
    have hid : other ≠ self ∨ u'.id ≠ u.id := by
      refine hne.imp_right fun h hid => h ?_
      rw [← hname, ← hname', hplaces.id_inj hmem' hmem hid]
    simp only [fieldOf_withValue_of_ne hid]

theorem fieldOf_initial (hplaces : plan.Places spec) {u : PlannedUniform}
    (hu : u ∈ plan.uniforms) :
    fieldOf (Instance.initial plan) u = u.type.defaultValue := by
  have hnodup : ((Instance.initial plan).fields.map Prod.fst).Nodup := by
    simpa [Instance.initial, Function.comp_def] using hplaces.ids_nodup
  have hmem : (u.id, u.type.defaultValue) ∈ (Instance.initial plan).fields :=
    List.mem_map_of_mem (f := fun u => (u.id, u.type.defaultValue)) hu
  unfold fieldOf
  rw [Table.lookup_eq_some_of_mem hnodup hmem]
  rfl

/-- The state with a new instance. -/
def State.withNew (k : State) (plan : Plan) (self : String) : State :=
  { k with instances := Table.insert self (.initial plan) k.instances }

theorem instanceNamed_withNew :
    (k.withNew plan self).instanceNamed plan self = .initial plan := by
  simp [State.withNew, State.instanceNamed, Table.lookup_insert_self]

/-- What moves leaves everything to be read as it was. -/
theorem Moving.reads_eq {x : Work σ Unit} (hx : Moving gl plan x)
    (hclash : Unclashing plan) (self name : String)
    (expected : Option Expected) (s : Session σ) (k : State) :
    (getParameter plan self name expected (x (s, k)).2).1 =
      (getParameter plan self name expected (s, k)).1 := by
  obtain ⟨es, r, s', k', hrun, -, -, hmoves⟩ := hx k s
  rw [hrun]
  exact getParameter_congr hclash hmoves.instanceNamed_eq self name expected s
    s'

/-! ## The store -/

/-- In a state, the parameters of instances are a store for the uniforms of a
specification. -/
structure IsStore (spec : Spec) (plan : Plan) (gl : GL.Device σ)
    (s : Session σ) (k : State) : Prop where
  /-- What can be converted can be written. -/
  written : ∀ self v t value stored, v ∈ spec.uniforms →
    UniformType.ofCode? v.tag = some t →
    t.converter.convert value = .ok stored →
    ∃ k', setParameter plan self v.name value (s, k) = (.ok (), s, k')
  /-- What has been written is read, converted for the type of the uniform. -/
  read : ∀ self v t value s' k', v ∈ spec.uniforms →
    UniformType.ofCode? v.tag = some t →
    setParameter plan self v.name value (s, k) = (.ok (), s', k') →
    ∃ stored, t.converter.convert value = .ok stored ∧
      getParameter plan self v.name none (s', k') = (.ok stored, s', k')
  /-- Under other names, and for other instances, the same is read as before.
  Nothing is written to what instances share. -/
  kept : ∀ self name value s' k',
    setParameter plan self name value (s, k) = (.ok (), s', k') →
    k'.shared = k.shared ∧ ∀ other name' expected,
      other ≠ self ∨ name' ≠ name →
      (getParameter plan other name' expected (s', k')).1 =
        (getParameter plan other name' expected (s, k)).1
  /-- Sharing the program and drawing write nothing. -/
  untouched : ∀ user, ∀ x ∈ [compile gl plan user, recompile gl plan user,
      dispose gl plan, useShader gl plan user, passUniforms gl plan user],
    ∀ self name expected,
      (getParameter plan self name expected (x (s, k)).2).1 =
        (getParameter plan self name expected (s, k)).1
  /-- A new instance holds what uniforms of the type start with. -/
  fresh : ∀ self v t, v ∈ spec.uniforms →
    UniformType.ofCode? v.tag = some t →
    (getParameter plan self v.name none (create plan self (s, k)).2).1 =
      .ok t.defaultValue
  /-- There is nothing under other names. -/
  unknown : ∀ self name, name ∉ spec.uniforms.map (·.name) →
    (∀ value, setParameter plan self name value (s, k) =
      (.error (.unknownUniform name), s, k)) ∧
    ∀ expected, getParameter plan self name expected (s, k) =
      (.error (.unknownUniform name), s, k)
  names : uniformNames plan = spec.uniforms.map (·.name)

theorem isStore_of_named (hplaces : plan.Places spec)
    (hdistinct : (spec.uniforms.map (·.name)).Nodup) (hclash : Unclashing plan)
    (hname : Named plan) (gl : GL.Device σ) (s : Session σ) (k : State) :
    IsStore spec plan gl s k where
  written := by
    intro self v t value stored hv ht h
    obtain ⟨u, -, rfl, hu⟩ := uniformNamed?_of_variable hplaces hdistinct hv ht
    exact ⟨_, setParameter_of_convert hname hu h self s k⟩
  read := by
    intro self v t value s' k' hv ht hrun
    obtain ⟨u, -, rfl, hu⟩ := uniformNamed?_of_variable hplaces hdistinct hv ht
    obtain ⟨_, _, hrun', hstoring⟩ :=
      setParameter_storing hclash self v.name value s k
    cases hrun.symm.trans hrun'
    obtain ⟨u', stored, hu', h, rfl⟩ := hstoring.of_ok
    cases hu.symm.trans hu'
    refine ⟨stored, h, ?_⟩
    rw [getParameter_of_named hclash hname, read_withValue_self hu]
  kept := by
    intro self name value s' k' hrun
    obtain ⟨_, _, hrun', hstoring⟩ :=
      setParameter_storing hclash self name value s k
    cases hrun.symm.trans hrun'
    obtain ⟨u, stored, hu, -, rfl⟩ := hstoring.of_ok
    refine ⟨rfl, fun other name' expected hne => ?_⟩
    simp only [getParameter_of_named hclash hname,
      read_withValue_of_ne hplaces hu hne]
  untouched := by
    intro user x hx self name expected
    have hmoving : Moving gl plan x := by
      simp only [List.mem_cons, List.not_mem_nil, or_false] at hx
      rcases hx with rfl | rfl | rfl | rfl | rfl
      · exact .compile user
      · exact .recompile hclash.bound user
      · exact .dispose
      · exact .useShader user
      · exact .passUniforms user
    exact hmoving.reads_eq hclash self name expected s k
  fresh := by
    intro self v t hv ht
    obtain ⟨u, hmem, rfl, hu⟩ :=
      uniformNamed?_of_variable hplaces hdistinct hv ht
    have hread : (k.withNew plan self).read plan self v.name none =
        .ok u.type.defaultValue := by
      unfold State.read
      rw [hu, instanceNamed_withNew]
      exact congrArg Except.ok (fieldOf_initial hplaces hmem)
    exact (congrArg Prod.fst
      (getParameter_of_named hclash hname self v.name none s _)).trans hread
  unknown := by
    intro self name hunknown
    have hu : uniformNamed? plan name = none := by
      rw [uniformNamed?_eq_none_iff]
      unfold uniformNames
      rwa [hplaces.names]
    refine ⟨fun value => ?_, fun expected => ?_⟩
    · unfold setParameter uniformNamed
      rw [reach_of_named hname, pure_bind, hu, hclash.lookupError_eq]
      rfl
    · rw [getParameter_of_named hclash hname]
      unfold State.read
      rw [hu]
  names := hplaces.names

theorem not_isStore_of_unnamed {other : String} (h : Unnamed plan other)
    (gl : GL.Device σ) (s : Session σ) (k : State) :
    ¬ IsStore spec plan gl s k := by
  intro hstore
  -- there always is a name that is not among finitely many
  have hnew := uniqueName_not_mem (spec.uniforms.map (·.name)) "u"
  obtain ⟨-, hread⟩ := hstore.unknown "" _ hnew
  have hread := hread none
  rw [getParameter_of_unnamed h] at hread
  cases hread

/-- The parameters of a class are a store, in every state, exactly if the name
of the class is not private to it. -/
theorem isStore_iff (hplan : Plan.ofSpec spec = .ok plan)
    (hdistinct : (spec.uniforms.map (·.name)).Nodup) (hclash : Unclashing plan)
    (gl : GL.Device σ) (s : Session σ) (k : State) :
    IsStore spec plan gl s k ↔
      privateName? plan.options.className = none := by
  rw [← hclash.bound.named_iff]
  constructor
  · intro hstore
    obtain hname | ⟨other, h⟩ := hclash.bound.named_or_unnamed
    · exact hname
    · exact (not_isStore_of_unnamed h gl s k hstore).elim
  · intro hname
    exact isStore_of_named (Plan.places_of_ofSpec hplan) hdistinct hclash hname
      gl s k

/-- Two names that differ in a character that no identifier holds. -/
theorem isStore_iff_renamed :
    let spec : Spec := ⟨{}, [], [⟨"a.b", 0x1406⟩, ⟨"a_b", 0x8B5E⟩], []⟩
    let plan : Plan := ⟨{}, [⟨"a.b", "a_b", .scalar .float, none⟩,
      ⟨"a_b", "a_b_2", .texture, some 0⟩], [], []⟩
    let gl := GL.Device.numbering (fun _ => false) []
    let k : State := { shared := Shared.initial plan }
    Plan.ofSpec spec = .ok plan ∧ (spec.uniforms.map (·.name)).Nodup ∧
      Unclashing plan ∧ IsStore spec plan gl ⟨0, [], []⟩ k := by
  intro spec plan gl k
  have hplan : Plan.ofSpec spec = .ok plan := by rfl
  have hdistinct : (spec.uniforms.map (·.name)).Nodup := by decide
  have hclash : Unclashing plan := unclashing_default _ _
  refine ⟨hplan, hdistinct, hclash, ?_⟩
  rw [isStore_iff hplan hdistinct hclash]
  exact privateName?_default

end ShaderBindings.Binding
