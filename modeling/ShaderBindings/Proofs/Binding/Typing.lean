import ShaderBindings.Proofs.Binding.Memory
import ShaderBindings.Proofs.Conversion.Stability

/-!
# Binding — Typing

Every field of every instance holds a value of the type of its uniform at any
time, whatever is stored, and whether or not it can be stored. What is read can
be written back, and then nothing has changed; only a class with a private name
can neither be read nor written, as its methods do not find it.
-/

namespace ShaderBindings.Binding

variable {σ : Type} {spec : Spec} {plan : Plan} {gl : GL.Device σ}
variable {k k' : State} {self name : String}

/-! ## Fields -/

/-- The fields are those of the uniforms in order, each under the identifier of
its uniform and with a value of its type. -/
def FieldsTyped (us : List PlannedUniform) (fields : List (String × Stored)) :
    Prop :=
  List.Forall₂ (fun u field => field.1 = u.id ∧ u.type.Regular field.2)
    us fields

theorem fieldsTyped_initial (plan : Plan) :
    FieldsTyped plan.uniforms (Instance.initial plan).fields := by
  unfold Instance.initial
  induction plan.uniforms with
  | nil => exact .nil
  | cons u rest ih => exact .cons ⟨rfl, u.type.defaultValue_regular⟩ ih

/-- A value of the type of a uniform may be put into its field. -/
theorem FieldsTyped.insert {us : List PlannedUniform}
    {fields : List (String × Stored)} (h : FieldsTyped us fields)
    {u : PlannedUniform} (hu : u ∈ us)
    (hids : ∀ u' ∈ us, u'.id = u.id → u' = u) {stored : Stored}
    (hstored : u.type.Regular stored) :
    FieldsTyped us (Table.insert u.id stored fields) := by
  induction h with
  | nil => cases hu
  | @cons first field us fields hfirst hrest ih =>
    obtain ⟨hid, hregular⟩ := hfirst
    obtain ⟨id, old⟩ := field
    unfold Table.insert
    by_cases hsame : id = u.id
    · have hfirst : first = u :=
        hids first List.mem_cons_self (hid.symm.trans hsame)
      subst hfirst
      rw [if_pos hsame]
      exact .cons ⟨rfl, hstored⟩ hrest
    · rw [if_neg hsame]
      refine .cons ⟨hid, hregular⟩ (ih ?_ ?_)
      · rcases List.mem_cons.mp hu with rfl | hmem
        · exact absurd hid hsame
        · exact hmem
      · intro u' hu' hid'
        exact hids u' (List.mem_cons_of_mem _ hu') hid'

theorem FieldsTyped.mem {us : List PlannedUniform}
    {fields : List (String × Stored)} (h : FieldsTyped us fields)
    {u : PlannedUniform} (hu : u ∈ us) :
    ∃ stored, (u.id, stored) ∈ fields ∧ u.type.Regular stored := by
  induction h with
  | nil => cases hu
  | @cons first field us fields hfirst hrest ih =>
    rcases List.mem_cons.mp hu with rfl | hmem
    · obtain ⟨hid, hregular⟩ := hfirst
      exact ⟨field.2, by simp [← hid], hregular⟩
    · obtain ⟨stored, hfield, hregular⟩ := ih hmem
      exact ⟨stored, List.mem_cons_of_mem _ hfield, hregular⟩

theorem FieldsTyped.ids {us : List PlannedUniform}
    {fields : List (String × Stored)} (h : FieldsTyped us fields) :
    fields.map Prod.fst = us.map (·.id) := by
  induction h with
  | nil => rfl
  | cons hfirst _ ih => simp [hfirst.1, ih]

/-- All instances have their fields. -/
def AllTyped (plan : Plan) (k : State) : Prop :=
  ∀ self, FieldsTyped plan.uniforms (k.instanceNamed plan self).fields

/-! ## Actions -/

/-- What is to be stored is a sound value. -/
def Action.Sound : Action → Prop
  | .store _ _ value => value.Sound
  | _ => True

/-- When one instance changes, the others still have their fields. -/
theorem AllTyped.update (h : AllTyped plan k) (self : String)
    (hself : FieldsTyped plan.uniforms (k'.instanceNamed plan self).fields)
    (hothers : ∀ other, other ≠ self →
      k'.instanceNamed plan other = k.instanceNamed plan other) :
    AllTyped plan k' := by
  intro other
  by_cases hsame : other = self
  · subst hsame
    exact hself
  · rw [hothers other hsame]
    exact h other

theorem AllTyped.withNew (h : AllTyped plan k) (self : String) :
    AllTyped plan (k.withNew plan self) := by
  refine h.update self ?_ fun other hne => ?_
  · rw [instanceNamed_withNew]
    exact fieldsTyped_initial plan
  · simp [State.withNew, State.instanceNamed, Table.lookup_insert_of_ne hne]

theorem AllTyped.withTranspose (h : AllTyped plan k) (self : String)
    (value : Value) : AllTyped plan (k.withTranspose plan self value) := by
  refine h.update self ?_ fun other hne => ?_
  · simpa [State.withTranspose, State.instanceNamed,
      Table.lookup_insert_self] using h self
  · simp [State.withTranspose, State.instanceNamed,
      Table.lookup_insert_of_ne hne]

/-- A store that succeeds puts a value of the right type into one field, and
one that fails changes nothing. -/
theorem AllTyped.storing (h : AllTyped plan k) (hplaces : plan.Places spec)
    {value : Value} (hsound : value.Sound) {r : Except Error Unit}
    (hs : Storing plan k self name value r k') : AllTyped plan k' := by
  cases r with
  | error e =>
    rw [hs.eq_of_error]
    exact h
  | ok _ =>
    obtain ⟨u, stored, hu, hvalue, rfl⟩ := hs.of_ok
    obtain ⟨hmem, -⟩ := uniformNamed?_eq_some hu
    refine h.update self ?_ fun other hne => ?_
    · rw [instanceNamed_withValue_self]
      exact (h self).insert hmem
        (fun u' hu' hid => hplaces.id_inj hu' hmem hid)
        (UniformType.convert_regular hsound hvalue)
    · exact instanceNamed_withValue_of_ne hne u.id stored

section Stepping

variable (hplaces : plan.Places spec) (hclash : Unclashing plan)

include hplaces hclash

/-- One action leaves every field with a value of its type. -/
theorem act_typed (gl : GL.Device σ) {a : Action} (hsound : a.Sound)
    (h : AllTyped plan k) :
    (a.act gl plan).Makes gl k fun _ _ k' => AllTyped plan k' := by
  have hmoving {x : Work σ Unit} (hx : Moving gl plan x) :
      x.Makes gl k fun _ _ k' => AllTyped plan k' := by
    refine (hx k).mono fun _ _ k' hmoves self => ?_
    rw [hmoves.instanceNamed_eq]
    exact h self
  cases a with
  | use u =>
    cases u with
    | create self =>
      refine (makes_of_eq (k.withNew plan self) fun _ => rfl).mono ?_
      rintro _ _ _ ⟨-, -, rfl⟩
      exact h.withNew self
    | edit files =>
      refine (makes_of_eq { k with files } fun _ => rfl).mono ?_
      rintro _ _ _ ⟨-, -, rfl⟩
      exact h
    | compile self | enter self => exact hmoving (.compile self)
    | recompile self => exact hmoving (.recompile hclash.bound self)
    | dispose self | leave self => exact hmoving .dispose
  | store self name value =>
    refine (makes_of_run fun s =>
      setParameter_storing hclash self name value s k).mono ?_
    rintro _ _ _ ⟨-, hs⟩
    exact h.storing hplaces hsound hs
  | orient self value =>
    refine (makes_of_eq (k.withTranspose plan self value) fun _ => rfl).mono ?_
    rintro _ _ _ ⟨-, -, rfl⟩
    exact h.withTranspose self value
  | draw self => exact hmoving (.useShader self)
  | pass self => exact hmoving (.passUniforms self)

/-- So do any number of actions. -/
theorem actAll_makes_typed (gl : GL.Device σ) {actions : List Action}
    (hsound : ∀ a ∈ actions, a.Sound) (h : AllTyped plan k) :
    (actAll gl plan actions).Makes gl k fun _ r k' =>
      (∃ results, r = .ok results) ∧ AllTyped plan k' := by
  induction actions generalizing k with
  | nil => exact .pure ⟨⟨[], rfl⟩, h⟩
  | cons a rest ih =>
    obtain ⟨ha, hrest⟩ := List.forall_mem_cons.mp hsound
    refine .attempt_bind (act_typed hplaces hclash gl ha h) ?_
    intro _ r k₁ h₁
    refine .bind (ih hrest h₁) ?_ ?_
    · rintro _ results k₂ ⟨-, h₂⟩
      exact .pure ⟨⟨r :: results, rfl⟩, h₂⟩
    · rintro _ e k₂ ⟨⟨results, ⟨⟩⟩, -⟩

end Stepping

/-! ## Writing back -/

/-- What is read can be written back, and then every instance is as it was. -/
def Rewrites (plan : Plan) (s : Session σ) (k : State) (self name : String) :
    Prop :=
  ∃ stored k', getParameter plan self name none (s, k) = (.ok stored, s, k) ∧
    setParameter plan self name stored.value (s, k) = (.ok (), s, k') ∧
    k'.shared = k.shared ∧
    ∀ other, k'.instanceNamed plan other = k.instanceNamed plan other

theorem FieldsTyped.lookup {i : Instance}
    (h : FieldsTyped plan.uniforms i.fields) (hplaces : plan.Places spec)
    {u : PlannedUniform} (hu : u ∈ plan.uniforms) :
    i.fields.lookup u.id = some (fieldOf i u) ∧
      u.type.Regular (fieldOf i u) := by
  have hnodup : (i.fields.map Prod.fst).Nodup := by
    rw [h.ids]
    exact hplaces.ids_nodup
  obtain ⟨stored, hfield, hregular⟩ := h.mem hu
  have hlookup := Table.lookup_eq_some_of_mem hnodup hfield
  have hheld : fieldOf i u = stored := by
    unfold fieldOf
    rw [hlookup, Option.getD_some]
  rw [hheld]
  exact ⟨hlookup, hregular⟩

theorem rewrites_of_named (hplaces : plan.Places spec)
    (hclash : Unclashing plan) (hname : Named plan) (h : AllTyped plan k)
    {v : Variable} (hv : v ∈ spec.uniforms) (self : String) (s : Session σ) :
    Rewrites plan s k self v.name := by
  cases hu : uniformNamed? plan v.name with
  | none =>
    refine absurd ?_ (uniformNamed?_eq_none_iff.mp hu)
    unfold uniformNames
    rw [hplaces.names]
    exact List.mem_map_of_mem hv
  | some u =>
    obtain ⟨hmem, -⟩ := uniformNamed?_eq_some hu
    obtain ⟨hlookup, hregular⟩ := (h self).lookup hplaces hmem
    refine ⟨fieldOf (k.instanceNamed plan self) u, _, ?_,
      setParameter_of_convert hname hu hregular.convert_value self s k, rfl, ?_⟩
    · rw [getParameter_of_named hclash hname, State.read, hu]
      rfl
    · intro other
      by_cases hsame : other = self
      · subst hsame
        rw [instanceNamed_withValue_self, Table.insert_of_lookup hlookup]
      · exact instanceNamed_withValue_of_ne hsame u.id _

theorem not_rewrites_of_unnamed {other : String} (h : Unnamed plan other)
    (s : Session σ) : ¬ Rewrites plan s k self name := by
  rintro ⟨stored, k', hread, -⟩
  rw [getParameter_of_unnamed h] at hread
  cases hread

/-! ## From the beginning -/

/-- An instance has one field for each uniform of the specification, in order,
and each holds a value of the type that the tag of the uniform stands for. -/
structure Typed (spec : Spec) (plan : Plan) (i : Instance) : Prop where
  ids : i.fields.map Prod.fst = plan.uniforms.map (·.id)
  values : List.Forall₂ (fun v field => ∃ t,
    UniformType.ofCode? v.tag = some t ∧ t.Regular field.2)
    spec.uniforms i.fields

theorem FieldsTyped.typed {i : Instance}
    (h : FieldsTyped plan.uniforms i.fields) (hplaces : plan.Places spec) :
    Typed spec plan i where
  ids := h.ids
  values := by
    have hstands := hplaces.uniforms
    generalize spec.uniforms = vs at hstands ⊢
    generalize plan.uniforms = us at hstands h
    generalize i.fields = fields at h ⊢
    induction hstands generalizing fields with
    | nil =>
      cases h
      exact .nil
    | cons hfirst _ ih =>
      cases h with
      | cons hfield hrest =>
        exact .cons ⟨_, hfirst.type, hfield.2⟩ (ih _ hrest)

/-- After any actions, whatever the device answers, every field holds a value of
the type of its uniform. Converters leave alone what they give. And what is read
can be written back without a change, exactly if the name of the class is not
private to it. -/
theorem actAll_typed (hplan : Plan.ofSpec spec = .ok plan)
    (hclash : Unclashing plan) (gl : GL.Device σ)
    (documentation : Option String) (files : File.System)
    {actions : List Action} (hsound : ∀ a ∈ actions, a.Sound) (s : Session σ) :
    ∃ results s' k,
      actAll gl plan actions
          (s, { shared := { Shared.initial plan with documentation }, files }) =
        (.ok results, s', k) ∧
      (∀ self, Typed spec plan (k.instanceNamed plan self)) ∧
      (∀ (t : UniformType) (value : Value) (stored : Stored),
        t.converter.convert value = .ok stored →
        t.converter.convert stored.value = .ok stored) ∧
      ∀ self, ∀ v ∈ spec.uniforms, Rewrites plan s' k self v.name ↔
        privateName? plan.options.className = none := by
  have hplaces := Plan.places_of_ofSpec hplan
  have hinit : AllTyped plan
      { shared := { Shared.initial plan with documentation }, files } :=
    fun _ => fieldsTyped_initial plan
  obtain ⟨es, _, s', k, hrun, -, -, ⟨results, rfl⟩, htyped⟩ :=
    actAll_makes_typed hplaces hclash gl hsound hinit s
  refine ⟨results, s', k, hrun, fun self => (htyped self).typed hplaces,
    fun t value stored => UniformType.convert_convert, fun self v hv => ?_⟩
  rw [← hclash.bound.named_iff]
  constructor
  · intro hrewrites
    rcases hclash.bound.named_or_unnamed with hname | ⟨other, h⟩
    · exact hname
    · exact absurd hrewrites (not_rewrites_of_unnamed h s')
  · intro hname
    exact rewrites_of_named hplaces hclash hname htyped hv self s'

/-- Two uniforms of one name, and values that fit and that do not. -/
theorem actAll_typed_repeated :
    let spec : Spec :=
      ⟨{}, [], [⟨"a", 0x8B51⟩, ⟨"a", 0x1405⟩, ⟨"t", 0x8B5E⟩], []⟩
    let plan : Plan := ⟨{}, [⟨"a", "a", .vector .three .float, none⟩,
      ⟨"a", "a_2", .scalar .uint, none⟩, ⟨"t", "t", .texture, some 0⟩], [], []⟩
    let gl := GL.Device.numbering (fun _ => false) []
    let actions : List Action := [.use (.create "i"), .store "i" "a" (.int 7),
      .store "j" "a" (.list [.int 1, .array ⟨.bool, [1], [true]⟩]),
      .store "i" "t" (.bool true)]
    Plan.ofSpec spec = .ok plan ∧ Unclashing plan ∧
      (∀ a ∈ actions, a.Sound) ∧ ∃ results s k,
        actAll gl plan actions ({ devices := 0 },
          { shared := Shared.initial plan }) = (.ok results, s, k) ∧
        ∀ self, Typed spec plan (k.instanceNamed plan self) ∧
          ∀ v ∈ spec.uniforms, Rewrites plan s k self v.name := by
  intro spec plan gl actions
  have hplan : Plan.ofSpec spec = .ok plan := by rfl
  have hclash : Unclashing plan := unclashing_default _ _
  have hsound : ∀ a ∈ actions, a.Sound := by
    simp [actions, Action.Sound, Value.Sound, soundAll, Number.Array.Full]
  obtain ⟨results, s, k, hrun, htyped, -, hrewrites⟩ :=
    actAll_typed hplan hclash gl none {} hsound { devices := 0 }
  refine ⟨hplan, hclash, hsound, results, s, k, hrun, fun self => ?_⟩
  exact ⟨htyped self, fun v hv =>
    (hrewrites self v hv).mpr privateName?_default⟩

end ShaderBindings.Binding
