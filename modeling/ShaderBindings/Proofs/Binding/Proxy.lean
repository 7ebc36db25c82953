import ShaderBindings.Binding.Proxy
import ShaderBindings.Proofs.Binding.Store

/-!
# Binding — Proxies

The fields of a proxy are the parameters of its instance, but writing and
reading go different ways. All that is assigned is stored for the uniform of
the name. What is read is looked for in the proxy first, so there are names
under which a uniform can be written, and read as an item, and never as a field.
-/

namespace ShaderBindings.Binding.Proxy

variable {σ α : Type} {spec : Spec} {plan : Plan} {self name : String}
variable {s s' : Session σ} {k k' : State}

/-! ## Unknown fields -/

/-- An error of a parameter as one of a field. -/
def asAttribute : Error → Error
  | .unknownUniform name => .unknownAttribute (Error.unknownUniform name).message
  | e => e

theorem asField_apply (x : Work σ α) (p : Session σ × State) :
    asField x p = ((x p).1.mapError asAttribute, (x p).2) := by
  simp only [asField, Act.attempt, Bind.bind, Act.bind]
  cases x p with
  | mk r p' =>
    cases r with
    | ok a => rfl
    | error e => cases e <;> rfl

/-- The act never says that there is no uniform of a name. -/
def FindsUniform (x : Work σ α) : Prop :=
  ∀ p name, (x p).1 ≠ .error (.unknownUniform name)

theorem FindsUniform.asField_eq {x : Work σ α} (h : FindsUniform x) :
    asField x = x := by
  funext p
  rw [asField_apply]
  have hp := h p
  cases hx : x p with
  | mk r p' =>
    cases r with
    | ok a => rfl
    | error e =>
      cases e <;> first | rfl | exact absurd (congrArg Prod.fst hx) (hp _)

theorem findsUniform_setParameter (hclash : Unclashing plan)
    (hname : name ∈ uniformNames plan) (self : String) (value : Value) :
    FindsUniform (setParameter plan self name value : Work σ Unit) := by
  rintro ⟨s, k⟩ other hother
  obtain ⟨r, k', hrun, hstoring⟩ :=
    setParameter_storing hclash self name value s k
  rw [hrun] at hother
  cases hother
  cases hstoring with
  | unknown _ hunknown => exact hunknown hname

/-- A uniform of the name holds a value. -/
theorem read_of_mem (hname : name ∈ uniformNames plan) (self : String)
    (k : State) : ∃ stored, k.read plan self name none = .ok stored := by
  cases hu : uniformNamed? plan name with
  | none => exact absurd hname (uniformNamed?_eq_none_iff.mp hu)
  | some u =>
    refine ⟨fieldOf (k.instanceNamed plan self) u, ?_⟩
    rw [State.read, hu]
    rfl

/-- Where the class is found by its name, a uniform can be read, and else
nothing can. -/
theorem getParameter_of_mem (hclash : Unclashing plan)
    (hname : name ∈ uniformNames plan) (self : String) (s : Session σ)
    (k : State) : ∃ r, getParameter plan self name none (s, k) = (r, s, k) ∧
      ((∃ stored, r = .ok stored) ∨
        ∃ other, r = .error (.undefinedName other)) := by
  obtain hnamed | ⟨other, hother⟩ := hclash.bound.named_or_unnamed
  · refine ⟨_, getParameter_of_named hclash hnamed self name none s k, .inl ?_⟩
    exact read_of_mem hname self k
  · exact ⟨_, getParameter_of_unnamed hother self name none s k,
      .inr ⟨other, rfl⟩⟩

theorem findsUniform_getParameter (hclash : Unclashing plan)
    (hname : name ∈ uniformNames plan) (self : String) :
    FindsUniform (getParameter plan self name none : Work σ Stored) := by
  rintro ⟨s, k⟩ other hother
  obtain ⟨r, hrun, ⟨stored, rfl⟩ | ⟨other', rfl⟩⟩ :=
    getParameter_of_mem hclash hname self s k
  all_goals
    rw [hrun] at hother
    cases hother

/-- What has been stored for a uniform is read. -/
theorem getParameter_withValue (hclash : Unclashing plan) (hnamed : Named plan)
    {u : PlannedUniform} (hu : uniformNamed? plan name = some u)
    (stored : Stored) (self : String) (s : Session σ) (k : State) :
    let k' := k.withValue plan self u.id stored
    getParameter plan self name none (s, k') = (.ok stored, s, k') := by
  intro k'
  rw [getParameter_of_named hclash hnamed, read_withValue_self hu]

/-! ## The proxy's own names -/

/-- The proxy has something of its own under the name, or never looks for a
uniform of that name: the name is one for the instance, or it starts with two
underscores. -/
def IsOwn (name : String) : Prop :=
  name ∈ instanceNames ∨ name.toList.take 2 = ['_', '_']

instance : DecidablePred IsOwn := fun _ =>
  inferInstanceAs (Decidable (_ ∨ _))

/-- What every proxy has under a name of its own. -/
def ownField (name : String) : Except Error Value :=
  if name ∈ instanceNames ∨ name ∈ members then .error (.noValue name)
  else
    match ownFields.lookup name with
    | some value => .ok value
    | none => .error (.unknownAttribute name)

theorem isOwn_of_mem_members (h : name ∈ members) : IsOwn name := by
  have hall : ∀ m ∈ members, m.toList.take 2 = ['_', '_'] := by decide
  exact .inr (hall name h)

theorem isOwn_of_lookup {value : Value}
    (h : ownFields.lookup name = some value) : IsOwn name := by
  have hall : ∀ m ∈ ownFields.map Prod.fst, m.toList.take 2 = ['_', '_'] := by
    decide
  exact .inr (hall name (List.mem_map_of_mem (Table.mem_of_lookup h)))

/-- Under a name of the proxy's own, nothing is looked for in the instance. -/
theorem get_of_isOwn (h : IsOwn name) (plan : Plan) (self : String)
    (s : Session σ) (k : State) :
    get plan self name (s, k) = (ownField name, s, k) := by
  unfold get ownField
  by_cases hmember : name ∈ instanceNames ∨ name ∈ members
  · simp only [List.contains_eq_mem, Bool.or_eq_true, decide_eq_true_eq,
      hmember, if_true]
    rfl
  · have hdashes := h.resolve_left fun hinstance => hmember (.inl hinstance)
    simp only [List.contains_eq_mem, Bool.or_eq_true, decide_eq_true_eq,
      hmember, if_false]
    cases hlookup : ownFields.lookup name with
    | some value => rfl
    | none =>
      simp only [hdashes, beq_self_eq_true, if_true]
      rfl

/-- Under all other names, what is read is the parameter. -/
theorem get_of_not_isOwn (h : ¬ IsOwn name) (plan : Plan) (self : String) :
    (get plan self name : Work σ Value) =
      Stored.value <$> asField (getParameter plan self name none) := by
  have hmember : ¬ (name ∈ instanceNames ∨ name ∈ members) := by
    rintro (hinstance | hmember)
    · exact h (.inl hinstance)
    · exact h (isOwn_of_mem_members hmember)
  have hdashes : ¬ name.toList.take 2 = ['_', '_'] := fun hd => h (.inr hd)
  have hlookup : ownFields.lookup name = none := by
    cases hlookup : ownFields.lookup name with
    | none => rfl
    | some value => exact absurd (isOwn_of_lookup hlookup) h
  unfold get
  simp only [List.contains_eq_mem, Bool.or_eq_true, decide_eq_true_eq, hmember,
    if_false, hlookup, beq_iff_eq, hdashes]
  rfl

/-- No uniform holds what a proxy has of its own. -/
theorem ownField_ne (name : String) (stored : Stored) :
    ownField name ≠ .ok stored.value := by
  have hall : ∀ field ∈ ownFields, field.2 ≠ stored.value := by
    cases stored <;> simp [ownFields, Stored.value]
  intro h
  unfold ownField at h
  split at h
  next => cases h
  next =>
    split at h
    next value hlookup =>
      cases h
      exact hall _ (Table.mem_of_lookup hlookup) rfl
    next => cases h

theorem ownField_ne_undefinedName (name other : String) :
    ownField name ≠ .error (.undefinedName other) := by
  unfold ownField
  split
  next => simp
  next => split <;> simp

/-! ## Fields and parameters -/

theorem mem_fieldNames_iff : name ∈ fieldNames plan ↔
    name ∈ uniformNames plan ∧ Text.isIdentifier name = true := by
  simp [fieldNames]

section Uniform

variable (hclash : Unclashing plan) (hname : name ∈ uniformNames plan)

include hclash hname

theorem set_eq (self : String) (value : Value) :
    (set plan self name value : Work σ Unit) =
      setParameter plan self name value :=
  (findsUniform_setParameter hclash hname self value).asField_eq

theorem get_eq (h : ¬ IsOwn name) (self : String) :
    (get plan self name : Work σ Value) =
      Stored.value <$> getParameter plan self name none := by
  rw [get_of_not_isOwn h,
    (findsUniform_getParameter hclash hname self).asField_eq]

theorem get_ne_of_isOwn (h : IsOwn name) (self : String) (s : Session σ)
    (k : State) : get plan self name (s, k) ≠
      (Stored.value <$> getParameter plan self name none) (s, k) := by
  obtain ⟨r, hrun, hr⟩ := getParameter_of_mem hclash hname self s k
  have hmap : (Stored.value <$> getParameter plan self name none) (s, k) =
      (r.map Stored.value, s, k) := by
    simp only [Functor.map, Act.bind, hrun]
    cases r <;> rfl
  rw [get_of_isOwn h, hmap]
  intro heq
  have hown := congrArg Prod.fst heq
  obtain ⟨stored, rfl⟩ | ⟨other, rfl⟩ := hr
  · exact ownField_ne name stored hown
  · exact ownField_ne_undefinedName name other hown

end Uniform

/-- In a state, the fields of proxies are parameters. Under a name of the
proxy's own, a uniform can be assigned and be read as an item, but not be read
as a field. -/
structure FieldsAgree (spec : Spec) (plan : Plan) (s : Session σ) (k : State) :
    Prop where
  /-- Those uniforms are listed whose names can be written as fields. -/
  listed : ∀ name, name ∈ fieldNames plan ↔
    name ∈ spec.uniforms.map (·.name) ∧ Text.isIdentifier name = true
  /-- Assigning is storing, only that an unknown uniform is told of as an
  unknown field. -/
  assigned : ∀ self name value, set plan self name value (s, k) =
    ((setParameter plan self name value (s, k)).1.mapError asAttribute,
      (setParameter plan self name value (s, k)).2)
  /-- A name that is listed is never unknown. -/
  known : ∀ self name value, name ∈ fieldNames plan →
    set plan self name value (s, k) = setParameter plan self name value (s, k)
  /-- The uniform is read exactly if the name is not the proxy's own. -/
  read : ∀ self name, name ∈ fieldNames plan →
    (get plan self name (s, k) =
        (Stored.value <$> getParameter plan self name none) (s, k) ↔
      ¬ IsOwn name)
  /-- Under the proxy's own names, the value of a uniform is never read. -/
  own : ∀ self name, IsOwn name → ∃ r, get plan self name (s, k) = (r, s, k) ∧
    ∀ stored : Stored, r ≠ .ok stored.value
  items : ∀ self name,
    item plan self name (s, k) = getParameter plan self name none (s, k)
  /-- What has been assigned is read, converted for the type of the uniform. -/
  converted : ∀ self v value s' k', v ∈ spec.uniforms →
    v.name ∈ fieldNames plan →
    set plan self v.name value (s, k) = (.ok (), s', k') →
    ∃ t stored, UniformType.ofCode? v.tag = some t ∧
      t.converter.convert value = .ok stored ∧
      item plan self v.name (s', k') = (.ok stored, s', k') ∧
      (¬ IsOwn v.name →
        get plan self v.name (s', k') = (.ok stored.value, s', k'))

/-- In every state, the fields of a proxy agree with the parameters. -/
theorem fields_agree (hplan : Plan.ofSpec spec = .ok plan)
    (hdistinct : (spec.uniforms.map (·.name)).Nodup) (hclash : Unclashing plan)
    (s : Session σ) (k : State) : FieldsAgree spec plan s k where
  listed := by
    intro name
    rw [mem_fieldNames_iff, uniformNames, (Plan.places_of_ofSpec hplan).names]
  assigned := fun self name value => asField_apply _ _
  known := by
    intro self name value hlisted
    rw [set_eq hclash (mem_fieldNames_iff.mp hlisted).1]
  read := by
    intro self name hlisted
    obtain ⟨hname, -⟩ := mem_fieldNames_iff.mp hlisted
    refine ⟨fun heq hown => ?_, fun h => by rw [get_eq hclash hname h]⟩
    exact get_ne_of_isOwn hclash hname hown self s k heq
  own := fun self name h =>
    ⟨_, get_of_isOwn h plan self s k, ownField_ne name⟩
  items := fun _ _ => rfl
  converted := by
    intro self v value s' k' hv hlisted hrun
    have hplaces := Plan.places_of_ofSpec hplan
    obtain ⟨hname, -⟩ := mem_fieldNames_iff.mp hlisted
    rw [set_eq hclash hname] at hrun
    obtain ⟨_, _, hrun', hstoring⟩ :=
      setParameter_storing hclash self v.name value s k
    cases hrun.symm.trans hrun'
    cases hstoring with
    | @stored u stored hnamed hu h =>
      obtain ⟨u', hmem', hname', htype, -⟩ := hplaces.exists_uniform hv
      have hu' := uniformNamed?_of_mem hplaces hdistinct hmem'
      rw [hname'] at hu'
      cases hu.symm.trans hu'
      have hread :=
        getParameter_withValue hclash hnamed hu stored self s k
      refine ⟨u.type, stored, htype, h, hread, fun hown => ?_⟩
      rw [get_eq hclash hname hown]
      simp only [Functor.map, Act.bind, hread]
      rfl

/-- A uniform whose name is the proxy's own does not disturb another one. -/
theorem fields_agree_radius :
    let spec : Spec := ⟨{}, [], [⟨"radius", 0x1404⟩, ⟨"shader", 0x1404⟩], []⟩
    let plan : Plan := ⟨{}, [⟨"radius", "radius", .scalar .int, none⟩,
      ⟨"shader", "shader", .scalar .int, none⟩], [], []⟩
    let s : Session Nat := ⟨0, [], []⟩
    let k : State := { shared := Shared.initial plan }
    Plan.ofSpec spec = .ok plan ∧ (spec.uniforms.map (·.name)).Nodup ∧
      Unclashing plan ∧ "radius" ∈ fieldNames plan ∧ FieldsAgree spec plan s k ∧
      ∃ k', set plan "a" "radius" (.int 8) (s, k) = (.ok (), s, k') ∧
        get plan "a" "radius" (s, k') = (.ok (.int 8), s, k') := by
  intro spec plan s k
  have hplan : Plan.ofSpec spec = .ok plan := by rfl
  have hdistinct : (spec.uniforms.map (·.name)).Nodup := by decide
  have hclash : Unclashing plan := unclashing_default _ _
  have hnamed : Named plan := hclash.bound.named_iff.mpr privateName?_default
  have hname : "radius" ∈ uniformNames plan := by decide
  have hlisted : "radius" ∈ fieldNames plan :=
    mem_fieldNames_iff.mpr ⟨hname, by decide⟩
  have hagree := fields_agree hplan hdistinct hclash s k
  have hrun : set plan "a" "radius" (.int 8) (s, k) =
      (.ok (), s, k.withValue plan "a" "radius" (.int 8)) := by
    have hu : uniformNamed? plan "radius" =
        some ⟨"radius", "radius", .scalar .int, none⟩ := by decide
    rw [set_eq hclash hname]
    exact setParameter_of_convert hnamed hu rfl "a" s k
  refine ⟨hplan, hdistinct, hclash, hlisted, hagree, _, hrun, ?_⟩
  obtain ⟨t, stored, ht, hstored, -, hread⟩ := hagree.converted "a"
    ⟨"radius", 0x1404⟩ _ _ _ List.mem_cons_self hlisted hrun
  cases ht
  cases hstored
  exact hread (by decide)

/-- Uniforms with names of the proxy's own are listed, and can be assigned and
be read as items, but not be read as fields. -/
theorem get_disagrees :
    let spec : Spec := ⟨{}, [], [⟨"shader", 0x1404⟩, ⟨"__lod", 0x1404⟩], []⟩
    let plan : Plan := ⟨{}, [⟨"shader", "shader", .scalar .int, none⟩,
      ⟨"__lod", "__lod", .scalar .int, none⟩], [], []⟩
    let s : Session Nat := ⟨0, [], []⟩
    let k : State := { shared := Shared.initial plan }
    Plan.ofSpec spec = .ok plan ∧ (spec.uniforms.map (·.name)).Nodup ∧
      Unclashing plan ∧
      ∀ name ∈ ["shader", "__lod"], name ∈ fieldNames plan ∧
        ∃ k', set plan "a" name (.int 1) (s, k) = (.ok (), s, k') ∧
          getParameter plan "a" name none (s, k') = (.ok (.int 1), s, k') ∧
          item plan "a" name (s, k') = (.ok (.int 1), s, k') ∧
          get plan "a" name (s, k') ≠ (.ok (.int 1), s, k') := by
  intro spec plan s k
  have hclash : Unclashing plan := unclashing_default _ _
  have hnamed : Named plan := hclash.bound.named_iff.mpr privateName?_default
  have hall : ∀ name ∈ ["shader", "__lod"], Text.isIdentifier name = true ∧
      IsOwn name ∧
      uniformNamed? plan name = some ⟨name, name, .scalar .int, none⟩ := by
    decide
  refine ⟨by rfl, by decide, hclash, fun name hname => ?_⟩
  obtain ⟨hidentifier, hown, hu⟩ := hall name hname
  have hlisted : name ∈ fieldNames plan :=
    mem_fieldNames_iff.mpr ⟨hname, hidentifier⟩
  have hread := getParameter_withValue hclash hnamed hu (.int 1) "a" s k
  refine ⟨hlisted, _, ?_, hread, hread, fun hget => ?_⟩
  · rw [set_eq hclash hname]
    exact setParameter_of_convert hnamed hu rfl "a" s k
  · rw [get_of_isOwn hown] at hget
    exact ownField_ne name (.int 1) (Prod.mk.inj hget).1

end ShaderBindings.Binding.Proxy
