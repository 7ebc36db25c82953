import Mathlib.Data.List.TakeDrop
import Mathlib.Data.List.TakeWhile
import ShaderBindings.Proofs.Binding.Memory

/-!
# Binding — Drawing

The calls that make a program current and pass the values of an instance to it.
The textures have one numbering: the unit that a texture is bound to is the one
that is passed for it. A call that fails ends the calls.
-/

/-! ## Calls one after the other -/

namespace ShaderBindings.GL

/-- Of calls one after the other, these were made, with this result: all of
them, or those up to the first that failed. -/
inductive Performed : List Call → List Event → Except Error Unit → Prop
  | done : Performed [] [] (.ok ())
  | answered {call : Call} {calls : List Call} {reply : call.Reply}
      {es : List Event} {r : Except Error Unit} (h : Performed calls es r) :
    Performed (call :: calls) (⟨call, .ok reply⟩ :: es) r
  | failed {call : Call} {calls : List Call} {fault : ExternalFault} :
    Performed (call :: calls) [⟨call, .error fault⟩] (.error (.external fault))

/-- If no call failed, all were made. -/
theorem Performed.calls_eq {calls : List Call} {es : List Event}
    (h : Performed calls es (.ok ())) : es.map (·.call) = calls := by
  generalize hr : (Except.ok () : Except Error Unit) = r at h
  induction h with
  | done => rfl
  | answered _ ih => exact congrArg _ (ih hr)
  | failed => cases hr

end ShaderBindings.GL

namespace ShaderBindings.Binding

variable {σ : Type} {spec : Spec} {plan : Plan} {gl : GL.Device σ}
variable {k : State} {self : String}

theorem performAll_makes (gl : GL.Device σ) (calls : List GL.Call) (k : State) :
    (performAll gl calls).Makes gl k fun es r k' =>
      k' = k ∧ GL.Performed calls es r := by
  unfold performAll
  induction calls with
  | nil => exact .pure ⟨rfl, .done⟩
  | cons call rest ih =>
    unfold Act.each
    rw [Act.bind_assoc]
    refine .perform_bind ?_ ?_
    · intro reply
      refine ih.mono ?_
      rintro es r k' ⟨rfl, h⟩
      exact ⟨rfl, .answered h⟩
    · intro fault _
      exact ⟨rfl, .failed⟩

/-- Looking at an instance is no call. -/
theorem instanceOf_bind {α : Type} {f : Instance → Work σ α}
    {P : List GL.Event → Except Error α → State → Prop}
    (h : (f (k.instanceNamed plan self)).Makes gl k P) :
    (instanceOf plan self >>= f).Makes gl k P :=
  h

/-! ## Using the program -/

/-- The calls that make the program current, with what an instance holds. -/
def drawCalls (plan : Plan) (k : State) (self : String) : List GL.Call :=
  .useProgram k.shared.program ::
    plan.textures.flatMap (textureCalls (k.instanceNamed plan self)) ++
    plan.attributes.map fun a => .enableAttribute (locationOf k.shared a.id)

theorem useShader_makes (hname : Named plan) (gl : GL.Device σ)
    (self : String) (k : State) :
    (useShader gl plan self).Makes gl k fun es r k' =>
      k' = k ∧ GL.Performed (drawCalls plan k self) es r := by
  unfold useShader
  rw [reach_of_named hname, pure_bind, seenProgram_of_named hname]
  exact performAll_makes gl (drawCalls plan k self) k

/-- The calls that pass what an instance holds. -/
def passCalls (plan : Plan) (k : State) (self : String) : List GL.Call :=
  plan.uniforms.filterMap (passCall? k.shared (k.instanceNamed plan self))

theorem passUniforms_makes (hclash : Unclashing plan) (gl : GL.Device σ)
    (self : String) (k : State) :
    (passUniforms gl plan self).Makes gl k fun es r k' =>
      k' = k ∧ GL.Performed (passCalls plan k self) es r := by
  -- no uniform keeps those after it from being passed
  have hopen (u : PlannedUniform) : isBlocked plan u = false := by
    have hint := hclash.hides_eq_false (show "int" ∈ builtinNames by decide)
    simp [isBlocked, hint]
  have hspan : (plan.uniforms.span fun u => !isBlocked plan u) =
      (plan.uniforms, []) := by
    rw [List.span_eq_takeWhile_dropWhile, Prod.mk.injEq,
      List.takeWhile_eq_self_iff, List.dropWhile_eq_nil_iff]
    simp [hopen]
  unfold passUniforms
  simp only [hspan]
  refine shared_bind (instanceOf_bind ?_)
  refine .bind (performAll_makes gl (passCalls plan k self) k) ?_ ?_
  · rintro es _ k' ⟨rfl, h⟩
    exact .pure ⟨rfl, by rwa [List.append_nil]⟩
  · intro es e k' h
    exact h

/-! ## By the history -/

/-- The calls that bind textures to units, from a unit on. -/
def bindCalls (unit : Nat) : List Texture → List GL.Call
  | [] => []
  | t :: rest =>
    .activeTexture unit :: .bindTexture t.target t.id ::
      bindCalls (unit + 1) rest

/-- The location of an attribute is the one that is kept for it. If no other
attribute has its name, that is the one that the device told last. -/
def IsLocation (plan : Plan) (es : List GL.Event) (k : State)
    (a : PlannedAttribute) (location : Int) : Prop :=
  location = locationOf k.shared a.id ∧
    ((∀ a' ∈ plan.attributes, a'.name = a.name → a' = a) →
      location = GL.lastTold es (.attribute a.name))

/-- The calls make the program current, bind the textures that are remembered to
the units from zero on, and enable the attributes in their order. -/
def IsDrawing (spec : Spec) (plan : Plan) (es : List GL.Event) (m : Memory)
    (k : State) (calls : List GL.Call) : Prop :=
  ∃ textures locations,
    (Plan.textureNames spec).map m.value =
      textures.map (fun t => some (.texture t)) ∧
    plan.attributes.map (·.name) = spec.attributes.map (·.name) ∧
    List.Forall₂ (IsLocation plan es k) plan.attributes locations ∧
    calls = .useProgram k.shared.program :: bindCalls 0 textures ++
      locations.map .enableAttribute

/-- The call passes a uniform, to the location that the device told last: the
number of a texture among the textures, and for every other uniform the value
that is remembered, by the call for its type. -/
inductive Passes (spec : Spec) (es : List GL.Event) (m : Memory)
    (v : Variable) : GL.Call → Prop
  | unit {unit : Nat} (ht : UniformType.ofCode? v.tag = some .texture)
      (hunit : (Plan.textureNames spec)[unit]? = some v.name) :
    Passes spec es m v (.passUnit (GL.lastTold es (.uniform v.name)) unit)
  | value {t : UniformType} {stored : Stored} {upload : GL.Upload}
      (ht : UniformType.ofCode? v.tag = some t) (hvalue : t ≠ .texture)
      (hstored : m.value v.name = some stored)
      (hname : upload.callName = t.callName)
      (harguments :
        upload.arguments = t.callArguments m.transpose stored) :
    Passes spec es m v
      (.passUniform (GL.lastTold es (.uniform v.name)) upload)

section History

variable {es : List GL.Event} {m : Memory} {i : Instance}

/-- Textures that have the units from `unit` on are bound to them in order. -/
theorem flatMap_textureCalls {us : List PlannedUniform} {unit : Nat}
    (hunits : us.map (·.unit) = (List.range' unit us.length).map some)
    (htextures : ∀ u ∈ us, ∃ t, fieldOf i u = .texture t) :
    ∃ textures, us.map (fieldOf i) = textures.map .texture ∧
      us.flatMap (textureCalls i) = bindCalls unit textures := by
  induction us generalizing unit with
  | nil => exact ⟨[], rfl, rfl⟩
  | cons u rest ih =>
    obtain ⟨⟨t, ht⟩, hrest⟩ := List.forall_mem_cons.mp htextures
    simp only [List.map_cons, List.length_cons, List.range'_succ,
      List.cons.injEq] at hunits
    obtain ⟨textures, hfields, hcalls⟩ := ih hunits.2 hrest
    refine ⟨t :: textures, by simp [ht, hfields], ?_⟩
    simp [textureCalls, hunits.1, ht, hcalls, bindCalls]

theorem uniform_mem_targets {u : PlannedUniform} (hu : u ∈ plan.uniforms) :
    (.uniform u.name, u.id) ∈ targets plan := by
  refine List.mem_append_left _ ?_
  simp only [uniformIds, List.map_map, List.mem_map]
  exact ⟨u, hu, rfl⟩

theorem attribute_mem_targets {a : PlannedAttribute}
    (ha : a ∈ plan.attributes) : (.attribute a.name, a.id) ∈ targets plan := by
  refine List.mem_append_right _ ?_
  simp only [attributeIds, List.map_map, List.mem_map]
  exact ⟨a, ha, rfl⟩

theorem uniform_of_mem_targets {name id : String}
    (h : (.uniform name, id) ∈ targets plan) :
    ∃ u ∈ plan.uniforms, u.name = name ∧ u.id = id := by
  simpa [targets, uniformIds, attributeIds] using h

theorem attribute_of_mem_targets {name id : String}
    (h : (.attribute name, id) ∈ targets plan) :
    ∃ a ∈ plan.attributes, a.name = name ∧ a.id = id := by
  simpa [targets, uniformIds, attributeIds] using h

theorem attributes_isLocation (h : Located plan es k) :
    List.Forall₂ (IsLocation plan es k) plan.attributes
      (plan.attributes.map fun a => locationOf k.shared a.id) := by
  rw [List.forall₂_map_right_iff, List.forall₂_same]
  intro a ha
  refine ⟨rfl, fun honly => ?_⟩
  refine h _ _ (attribute_mem_targets ha) ?_
  intro id hid
  obtain ⟨a', ha', hname, rfl⟩ := attribute_of_mem_targets hid
  rw [honly a' ha' hname]

/-- The calls that are made for drawing are those by the history. -/
theorem drawCalls_isDrawing (hplaces : plan.Places spec)
    (hlocated : Located plan es k)
    (hholds : Holds plan m (k.instanceNamed plan self)) :
    IsDrawing spec plan es m k (drawCalls plan k self) := by
  have htextures : ∀ u ∈ plan.textures,
      ∃ t, fieldOf (k.instanceNamed plan self) u = .texture t := by
    intro u hu
    obtain ⟨hmem, hunit⟩ := List.mem_filter.mp hu
    obtain ⟨v, -, hstands⟩ := hplaces.exists_variable hmem
    have hfits := hholds.fits u hmem
    rw [hstands.unit.mp hunit] at hfits
    exact hfits.eq_texture
  have hunits : plan.textures.map (·.unit) =
      (List.range' 0 plan.textures.length).map some := by
    rw [← List.range_eq_range']
    exact hplaces.textures_units
  obtain ⟨textures, hfields, hcalls⟩ :=
    flatMap_textureCalls hunits htextures
  refine ⟨textures, plan.attributes.map fun a => locationOf k.shared a.id, ?_,
    hplaces.attributes, attributes_isLocation hlocated, ?_⟩
  · have hvalues : plan.textures.map (fun u => m.value u.name) =
        plan.textures.map
          (fun u => some (fieldOf (k.instanceNamed plan self) u)) := by
      refine List.map_congr_left fun u hu => ?_
      exact hholds.value u (List.mem_filter.mp hu).1
    calc (Plan.textureNames spec).map m.value
        = plan.textures.map (fun u => m.value u.name) := by
          rw [← hplaces.textures_names, List.map_map]
          rfl
      _ = (plan.textures.map
            (fieldOf (k.instanceNamed plan self))).map some := by
          rw [hvalues, List.map_map]
          rfl
      _ = textures.map (fun t => some (.texture t)) := by
          rw [hfields, List.map_map]
          rfl
  · simp only [drawCalls, hcalls, List.map_map]
    rfl

/-- A texture has the number of its unit among the textures. -/
theorem textureNames_getElem? (hplaces : plan.Places spec)
    {u : PlannedUniform} {unit : Nat} (hu : u ∈ plan.uniforms)
    (hunit : u.unit = some unit) :
    (Plan.textureNames spec)[unit]? = some u.name := by
  have hmem : u ∈ plan.textures :=
    List.mem_filter.mpr ⟨hu, by simp [hunit]⟩
  obtain ⟨i, hi, hget⟩ := List.mem_iff_getElem.mp hmem
  have hi' : unit = i := by
    have hunits := congrArg (·[i]?) hplaces.textures_units
    simpa [hi, hget, hunit] using hunits
  subst hi'
  rw [← hplaces.textures_names, List.getElem?_map, List.getElem?_eq_getElem hi,
    hget]
  rfl

theorem location_eq_lastTold (hplaces : plan.Places spec)
    (hdistinct : (spec.uniforms.map (·.name)).Nodup)
    (h : Located plan es k) {u : PlannedUniform} (hu : u ∈ plan.uniforms) :
    locationOf k.shared u.id = GL.lastTold es (.uniform u.name) := by
  refine h _ _ (uniform_mem_targets hu) ?_
  intro id hid
  obtain ⟨u', hu', hname, rfl⟩ := uniform_of_mem_targets hid
  rw [hplaces.name_inj hdistinct hu' hu hname]

/-- Every uniform is passed, and as the history says. -/
theorem passCall?_passes (hplaces : plan.Places spec)
    (hdistinct : (spec.uniforms.map (·.name)).Nodup)
    (hlocated : Located plan es k)
    (hholds : Holds plan m (k.instanceNamed plan self)) {v : Variable}
    {u : PlannedUniform} (hu : u ∈ plan.uniforms)
    (hstands : Plan.StandsFor v u) :
    ∃ call, passCall? k.shared (k.instanceNamed plan self) u = some call ∧
      Passes spec es m v call := by
  obtain ⟨hname, htype, hisunit⟩ := hstands
  have hlocation := location_eq_lastTold hplaces hdistinct hlocated hu
  unfold passCall?
  rw [hlocation, hname]
  cases hunit : u.unit with
  | some unit =>
    refine ⟨_, rfl, .unit ?_ ?_⟩
    · rwa [hisunit.mp (by simp [hunit])] at htype
    · rw [textureNames_getElem? hplaces hu hunit, hname]
  | none =>
    have hvalue : u.type ≠ .texture := fun htexture => by
      have hsome := hisunit.mpr htexture
      simp [hunit] at hsome
    obtain ⟨upload, hupload, hcallName, harguments⟩ :=
      (hholds.fits u hu).upload hvalue m.transpose
    refine ⟨_, ?_, .value htype hvalue ?_ hcallName harguments⟩
    · rw [hholds.transpose, hupload]
      rfl
    · rw [← hname]
      exact hholds.value u hu

/-- The calls that are made for passing are one for each uniform, in order. -/
theorem passCalls_passes (hplaces : plan.Places spec)
    (hdistinct : (spec.uniforms.map (·.name)).Nodup)
    (hlocated : Located plan es k)
    (hholds : Holds plan m (k.instanceNamed plan self)) :
    List.Forall₂ (Passes spec es m) spec.uniforms (passCalls plan k self) := by
  have hpart : ∀ {vs us}, List.Forall₂ Plan.StandsFor vs us →
      (∀ u ∈ us, u ∈ plan.uniforms) → List.Forall₂ (Passes spec es m) vs
        (us.filterMap
          (passCall? k.shared (k.instanceNamed plan self))) := by
    intro vs us hall
    induction hall with
    | nil => exact fun _ => .nil
    | @cons v u vs us hstands _ ih =>
      intro hmem
      obtain ⟨hu, hrest⟩ := List.forall_mem_cons.mp hmem
      obtain ⟨call, hcall, hpasses⟩ :=
        passCall?_passes hplaces hdistinct hlocated hholds hu hstands
      rw [List.filterMap_cons_some hcall]
      exact .cons hpasses (ih hrest)
  exact hpart hplaces.uniforms fun _ h => h

end History

/-! ## After any actions -/

section Agreement

variable {es : List GL.Event} {m : Memory} {s : Session σ}

/-- Using the program makes the calls by the history, and changes nothing. -/
def DrawsBy (spec : Spec) (plan : Plan) (gl : GL.Device σ)
    (es : List GL.Event) (m : Memory) (self : String) (s : Session σ)
    (k : State) : Prop :=
  ∃ calls es' r s', useShader gl plan self (s, k) = (r, s', k) ∧
    s'.trace = s.trace ++ es'.map .gl ∧ GL.Performed calls es' r ∧
    IsDrawing spec plan es m k calls

/-- Passing the uniforms makes one call for each, by the history, and changes
nothing. -/
def PassesBy (spec : Spec) (plan : Plan) (gl : GL.Device σ)
    (es : List GL.Event) (m : Memory) (self : String) (s : Session σ)
    (k : State) : Prop :=
  ∃ calls es' r s', passUniforms gl plan self (s, k) = (r, s', k) ∧
    s'.trace = s.trace ++ es'.map .gl ∧ GL.Performed calls es' r ∧
    List.Forall₂ (Passes spec es m) spec.uniforms calls

theorem drawsBy_of_named (hplaces : plan.Places spec) (hname : Named plan)
    (hlocated : Located plan es k)
    (hholds : Holds plan m (k.instanceNamed plan self)) :
    DrawsBy spec plan gl es m self s k := by
  obtain ⟨es', r, s', _, hrun, htrace, -, rfl, hperformed⟩ :=
    useShader_makes hname gl self k s
  exact ⟨_, es', r, s', hrun, htrace, hperformed,
    drawCalls_isDrawing hplaces hlocated hholds⟩

/-- A class that is not found by its name makes no call. -/
theorem not_drawsBy_of_unnamed {other : String} (h : Unnamed plan other) :
    ¬ DrawsBy spec plan gl es m self s k := by
  rintro ⟨calls, es', r, s', hrun, htrace, hperformed, textures, locations,
    -, -, -, rfl⟩
  have hfail : useShader gl plan self (s, k) =
      (.error (.undefinedName other), s, k) := by
    unfold useShader
    rw [reach_of_unnamed h]
    rfl
  cases hrun.symm.trans hfail
  have hnone : es' = [] := by simpa using htrace
  subst hnone
  cases hperformed

theorem passesBy (hplaces : plan.Places spec)
    (hdistinct : (spec.uniforms.map (·.name)).Nodup) (hclash : Unclashing plan)
    (hlocated : Located plan es k)
    (hholds : Holds plan m (k.instanceNamed plan self)) :
    PassesBy spec plan gl es m self s k := by
  obtain ⟨es', r, s', _, hrun, htrace, -, rfl, hperformed⟩ :=
    passUniforms_makes hclash gl self k s
  exact ⟨_, es', r, s', hrun, htrace, hperformed,
    passCalls_passes hplaces hdistinct hlocated hholds⟩

end Agreement

/-- After any actions, whatever the device answers, every instance passes its
uniforms by the history of the actions and of the calls. It uses the program by
the same history exactly if the name of the class is not private to it. -/
theorem actAll_draws (hplan : Plan.ofSpec spec = .ok plan)
    (hdistinct : (spec.uniforms.map (·.name)).Nodup) (hclash : Unclashing plan)
    (gl : GL.Device σ) (documentation : Option String) (files : File.System)
    (actions : List Action) (devices : σ) :
    ∃ results s k,
      actAll gl plan actions ({ devices },
          { shared := { Shared.initial plan with documentation }, files }) =
        (.ok results, s, k) ∧
      ∀ self,
        let m := (Memories.initial spec).after spec actions results self
        PassesBy spec plan gl s.calls m self s k ∧
        (DrawsBy spec plan gl s.calls m self s k ↔
          privateName? plan.options.className = none) := by
  have hplaces := Plan.places_of_ofSpec hplan
  obtain ⟨es, _, s, k, hrun, htrace, -, results, rfl, hagrees⟩ :=
    actAll_agrees hplaces hdistinct hclash gl actions (.initial spec)
      { shared := { Shared.initial plan with documentation }, files }
      { devices }
  obtain ⟨hholds, hlocated⟩ := hagrees [] (agrees_initial hplaces hdistinct
    documentation files)
  have hcalls : s.calls = es := Session.calls_eq htrace
  refine ⟨results, s, k, hrun, fun self => ⟨?_, ?_⟩⟩
  · rw [hcalls]
    exact passesBy hplaces hdistinct hclash hlocated (hholds self)
  · rw [hcalls, ← hclash.bound.named_iff]
    constructor
    · intro hdraws
      obtain hname | ⟨other, h⟩ := hclash.bound.named_or_unnamed
      · exact hname
      · exact (not_drawsBy_of_unnamed h hdraws).elim
    · intro hname
      exact drawsBy_of_named hplaces hname hlocated (hholds self)

/-- Two instances of a class with two textures, whose names differ in a
character that no identifier holds. -/
theorem actAll_draws_renamed :
    let spec : Spec := ⟨{}, [],
      [⟨"a.b", 0x8B5E⟩, ⟨"x", 0x1406⟩, ⟨"a_b", 0x8B5E⟩], [⟨"p", 0x8B51⟩]⟩
    let plan : Plan := ⟨{}, [⟨"a.b", "a_b", .texture, some 0⟩,
      ⟨"x", "x", .scalar .float, none⟩, ⟨"a_b", "a_b_2", .texture, some 1⟩],
      [⟨"p", "p"⟩], []⟩
    let gl := GL.Device.numbering (fun _ => false) []
    let actions : List Action := [.use (.create "i"), .use (.compile "i"),
      .store "i" "a_b" (.texture ⟨5, 0x0DE1⟩), .store "j" "x" (.int 1)]
    Plan.ofSpec spec = .ok plan ∧ (spec.uniforms.map (·.name)).Nodup ∧
      Unclashing plan ∧ ∃ results s k,
        actAll gl plan actions ({ devices := 0 },
          { shared := Shared.initial plan }) = (.ok results, s, k) ∧
        ∀ self,
          let m := (Memories.initial spec).after spec actions results self
          PassesBy spec plan gl s.calls m self s k ∧
          DrawsBy spec plan gl s.calls m self s k := by
  intro spec plan gl actions
  have hplan : Plan.ofSpec spec = .ok plan := by rfl
  have hdistinct : (spec.uniforms.map (·.name)).Nodup := by decide
  have hclash : Unclashing plan := unclashing_default _ _
  obtain ⟨results, s, k, hrun, h⟩ :=
    actAll_draws hplan hdistinct hclash gl none {} actions 0
  refine ⟨hplan, hdistinct, hclash, results, s, k, hrun, fun self => ?_⟩
  exact ⟨(h self).1, (h self).2.mpr privateName?_default⟩

end ShaderBindings.Binding
