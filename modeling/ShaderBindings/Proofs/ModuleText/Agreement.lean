import ShaderBindings.Proofs.Arguments.Naming
import ShaderBindings.Proofs.ModuleText.Documentation

/-!
# Generated modules — What a text depends on

The text of a module depends on the options, on the kinds of the stages, on
their texts or their paths, on the names and the types of the uniforms and on
the names of the attributes, and it tells all of these. It depends on nothing
else: not on the paths of stages that are part of the module, not on the texts
of stages that are loaded, not on the types of attributes, and not on the shape
of a texture.
-/

namespace ShaderBindings

/-! ## Specifications that agree -/

/-- Two specifications agree in everything that a module shows. -/
structure Spec.Agree (s t : Spec) : Prop where
  options : s.options = t.options
  kinds : s.stages.map (·.kind) = t.stages.map (·.kind)
  texts : s.options.reload = false →
    s.stages.map (·.text) = t.stages.map (·.text)
  paths : s.options.reload = true →
    s.stages.map (·.path) = t.stages.map (·.path)
  uniforms : s.uniforms.map (fun v => (v.name, UniformType.ofCode? v.tag)) =
    t.uniforms.map (fun v => (v.name, UniformType.ofCode? v.tag))
  attributes : s.attributes.map (·.name) = t.attributes.map (·.name)

instance (s t : Spec) : Decidable (s.Agree t) :=
  decidable_of_iff
    (s.options = t.options ∧ s.stages.map (·.kind) = t.stages.map (·.kind) ∧
      (s.options.reload = false →
        s.stages.map (·.text) = t.stages.map (·.text)) ∧
      (s.options.reload = true →
        s.stages.map (·.path) = t.stages.map (·.path)) ∧
      s.uniforms.map (fun v => (v.name, UniformType.ofCode? v.tag)) =
        t.uniforms.map (fun v => (v.name, UniformType.ofCode? v.tag)) ∧
      s.attributes.map (·.name) = t.attributes.map (·.name))
    ⟨fun ⟨h₁, h₂, h₃, h₄, h₅, h₆⟩ => ⟨h₁, h₂, h₃, h₄, h₅, h₆⟩,
      fun ⟨h₁, h₂, h₃, h₄, h₅, h₆⟩ => ⟨h₁, h₂, h₃, h₄, h₅, h₆⟩⟩

attribute [ext] Options

/-! ## What is not shown -/

/-- The stage without what a module does not show of it. -/
def Stage.shown (reload : Bool) (s : Stage) : Stage :=
  if reload then { s with text := "" } else { s with path := "" }

theorem Stage.shown_eq {reload : Bool} {s t : Stage} (hkind : s.kind = t.kind)
    (htext : reload = false → s.text = t.text)
    (hpath : reload = true → s.path = t.path) :
    s.shown reload = t.shown reload := by
  obtain ⟨path, kind, text⟩ := s
  obtain ⟨path', kind', text'⟩ := t
  cases reload
  · have := htext rfl
    simp_all [shown]
  · have := hpath rfl
    simp_all [shown]

@[simp] theorem Stage.shown_kind (reload : Bool) (s : Stage) :
    (s.shown reload).kind = s.kind := by
  cases reload <;> rfl

/-- The stage of a plan without what a module does not show of it. -/
def PlannedStage.shown (reload : Bool) (s : PlannedStage) : PlannedStage :=
  { s with stage := s.stage.shown reload }

/-- The plan without what a module does not show of it. -/
def Plan.shown (plan : Plan) : Plan :=
  { plan with stages := plan.stages.map (·.shown plan.options.reload) }

namespace ModuleText

variable (plan : Plan)

theorem classDoc_shown : classDoc plan.shown = classDoc plan := by
  simp [classDoc, Plan.shown, PlannedStage.shown, Function.comp_def]

theorem sharedFields_shown : sharedFields plan.shown = sharedFields plan := by
  cases hreload : plan.options.reload <;>
    simp [sharedFields, Plan.shown, PlannedStage.shown, Stage.shown,
      Plan.located, hreload, Function.comp_def]

theorem loadShaders_shown (hreload : plan.options.reload = true) :
    loadShaders plan.shown = loadShaders plan := by
  simp [loadShaders, Plan.shown, PlannedStage.shown, Stage.shown, hreload,
    Function.comp_def]

theorem compileStage_shown (name : String) (reload : Bool) (s : PlannedStage) :
    compileStage name (s.shown reload) = compileStage name s := by
  simp [compileStage, PlannedStage.shown]

theorem compileShader_shown :
    compileShader plan.shown = compileShader plan := by
  simp only [compileShader, Plan.shown, List.flatMap_map, compileStage_shown]
  rfl

theorem classBody_shown : classBody plan.shown = classBody plan := by
  have hload : (if plan.shown.options.reload then loadShaders plan.shown
      else []) = if plan.options.reload then loadShaders plan else [] := by
    show (if plan.options.reload then loadShaders plan.shown else []) = _
    split
    · rename_i hreload
      exact loadShaders_shown plan hreload
    · rfl
  rw [classBody, classBody, hload, classDoc_shown, sharedFields_shown,
    compileShader_shown]
  rfl

/-- A module says the same without what it does not show. -/
theorem ofPlan_shown (version : String) :
    ofPlan version plan.shown = ofPlan version plan := by
  have hclass : classItems version plan.shown = classItems version plan := by
    rw [classItems, classItems, classBody_shown]
    rfl
  rw [ofPlan, ofPlan, items, items, hclass]
  rfl

end ModuleText

/-! ## Plans of specifications -/

theorem DerivedAll.starts_of_map {α : Type} {earlier : List String}
    {base name : α → String} {xs : List α}
    (h : DerivedAll earlier (xs.map base) (xs.map name)) :
    ∀ x ∈ xs, (base x).toList <+: (name x).toList := by
  induction xs generalizing earlier with
  | nil => simp
  | cons x xs ih =>
    cases h with
    | cons hname hrest =>
      intro y hy
      rcases List.mem_cons.mp hy with rfl | hy
      · exact hname.starts
      · exact ih hrest y hy

namespace Plan

variable {s t : Spec} {p q : Plan}

/-- The plan of a specification whose options are in order is legible. -/
theorem legible_of_ofSpec (hcheck : s.options.check = .ok ())
    (h : ofSpec s = .ok p) : p.Legible := by
  have hid := identified_of_ofSpec h
  have hplain : ∀ v ∈ p.located, IsPlain v.2 :=
    fun v hv => hid.plain _ (List.mem_map_of_mem hv)
  have hstages := hid.stagesDerived
  rw [← hid.stages, List.map_map] at hstages
  obtain ⟨hclass, hpackage⟩ := Options.check_eq_ok_iff.mp hcheck
  have hname := isName_of_isClassName hclass
  rw [← (places_of_ofSpec h).options] at hname hpackage
  exact {
    className := oneLine_of_isName hname
    undotted := notMem_of_isName hname (by decide) (by decide)
    package := oneLine_of_isDottedName hpackage
    uniforms := fun u hu => hplain (u.name, u.id)
      (List.mem_append_left _ (List.mem_map_of_mem hu))
    attributes := fun a ha => hplain (a.name, a.id)
      (List.mem_append_right _ (List.mem_map_of_mem ha))
    stages := hid.stagesPlain
    stems := hstages.starts_of_map }

/-- The uniforms of a plan have the names and the types of the
specification. -/
theorem typedNames_of_ofSpec (h : ofSpec s = .ok p) :
    (ModuleText.typedNames p).map (fun u => (u.1, some u.2)) =
      s.uniforms.map fun v => (v.name, UniformType.ofCode? v.tag) := by
  have hall : ∀ {vs us}, List.Forall₂ StandsFor vs us →
      us.map (fun u => (u.name, some u.type)) =
        vs.map fun v => (v.name, UniformType.ofCode? v.tag) := by
    intro vs us h
    induction h with
    | nil => rfl
    | cons hfirst _ ih =>
      rw [List.map_cons, List.map_cons, ih, hfirst.name, hfirst.type]
  rw [← hall (places_of_ofSpec h).uniforms, ModuleText.typedNames, List.map_map]
  rfl

/-- Specifications whose modules have the same text agree. -/
theorem agree_of_text_eq {version : String} (hs : s.options.check = .ok ())
    (ht : t.options.check = .ok ()) (hp : ofSpec s = .ok p)
    (hq : ofSpec t = .ok q)
    (h : ModuleText.ofPlan version p = ModuleText.ofPlan version q) :
    s.Agree t := by
  have hlegible := legible_of_ofSpec hs hp
  have hlegible' := legible_of_ofSpec ht hq
  obtain ⟨habove, hbelow⟩ :=
    ModuleText.rows_of_ofPlan_eq hlegible hlegible' h
  have hsame :=
    ModuleText.sameBlocks_of_rowsBelow_eq hlegible hlegible' hbelow
  obtain ⟨hpackage, hclass⟩ :=
    ModuleText.names_of_rowsAbove hlegible hlegible' habove
  have htypes := ModuleText.types_of_rowsAbove habove hsame.uniforms
    hsame.attributes
  have hplaces := places_of_ofSpec hp
  have hplaces' := places_of_ofSpec hq
  have hstages := (identified_of_ofSpec hp).stages
  have hstages' := (identified_of_ofSpec hq).stages
  have hof : ∀ {α : Type} (f : Stage → α),
      p.stages.map (fun x => f x.stage) = q.stages.map (fun x => f x.stage) →
      s.stages.map f = t.stages.map f := by
    intro α f hf
    rw [← hstages, ← hstages', List.map_map, List.map_map]
    exact hf
  have hoptions : s.options = t.options := by
    rw [← hplaces.options, ← hplaces'.options]
    exact Options.ext hpackage hclass hsame.reload hsame.transpose
  have htyped : ModuleText.typedNames p = ModuleText.typedNames q := by
    have hzip := congrArg₂ List.zip hsame.uniforms htypes
    simpa [ModuleText.typedNames, List.zip_map'] using hzip
  exact {
    options := hoptions
    kinds := hof _ (hsame.kinds hlegible hlegible')
    texts := fun hreload => hof _ (hsame.texts hlegible hlegible'
      (hplaces.options ▸ hreload) (hplaces'.options ▸ hoptions ▸ hreload))
    paths := fun hreload => hof _ (hsame.paths hlegible hlegible' hclass
      (hplaces.options ▸ hreload))
    uniforms := by
      rw [← typedNames_of_ofSpec hp, ← typedNames_of_ofSpec hq, htyped]
    attributes := by
      rw [← hplaces.attributes, ← hplaces'.attributes, hsame.attributes] }

/-! ## Modules of specifications that agree -/

/-- The uniforms of a plan depend on the names only, once their identifiers and
their types are known. -/
theorem placeUniforms_congr {vs ws : List Variable}
    (h : vs.map (·.name) = ws.map (·.name)) (unit : Nat) (ids : List String)
    (types : List UniformType) :
    placeUniforms unit vs ids types = placeUniforms unit ws ids types := by
  induction vs generalizing ws unit ids types with
  | nil =>
    cases ws with
    | nil => rfl
    | cons w ws => simp at h
  | cons v vs ih =>
    cases ws with
    | nil => simp at h
    | cons w ws =>
      rw [List.map_cons, List.map_cons, List.cons.injEq] at h
      cases ids with
      | nil => simp [placeUniforms]
      | cons id ids =>
        cases types with
        | nil => simp [placeUniforms]
        | cons t types => simp [placeUniforms, h.1, ih h.2]

theorem resolve_congr {vs ws : List Variable} {types types' : List UniformType}
    (hvs : resolve vs = .ok types) (hws : resolve ws = .ok types')
    (h : vs.map (fun v => UniformType.ofCode? v.tag) =
      ws.map fun v => UniformType.ofCode? v.tag) : types = types' := by
  have hsome : ∀ {vs types}, resolve vs = .ok types →
      types.map some = vs.map fun v => UniformType.ofCode? v.tag := by
    intro vs types hvs
    have hall := resolve_ok hvs
    clear hvs
    induction hall with
    | nil => rfl
    | cons hfirst _ ih => rw [List.map_cons, List.map_cons, ih, hfirst]
  rw [← hsome hvs, ← hsome hws] at h
  exact List.map_injective_iff.mpr (fun _ _ => Option.some.inj) h

/-- The stages of specifications that agree differ in nothing that is shown. -/
theorem shown_stages (h : s.Agree t) :
    s.stages.map (·.shown s.options.reload) =
      t.stages.map (·.shown t.options.reload) := by
  rw [← h.options]
  cases hreload : s.options.reload with
  | false =>
    have hzip := congrArg₂ List.zip h.kinds (h.texts hreload)
    rw [List.zip_map', List.zip_map'] at hzip
    refine map_eq_of_map_eq hzip fun x _ y _ heq => ?_
    rw [Prod.mk.injEq] at heq
    exact Stage.shown_eq heq.1 (fun _ => heq.2) (fun h => by cases h)
  | true =>
    have hzip := congrArg₂ List.zip h.kinds (h.paths hreload)
    rw [List.zip_map', List.zip_map'] at hzip
    refine map_eq_of_map_eq hzip fun x _ y _ heq => ?_
    rw [Prod.mk.injEq] at heq
    exact Stage.shown_eq heq.1 (fun h => by cases h) (fun _ => heq.2)

/-- The plans of specifications that agree differ in nothing that is shown. -/
theorem shown_of_agree (h : s.Agree t) (hp : ofSpec s = .ok p)
    (hq : ofSpec t = .ok q) : p.shown = q.shown := by
  have hnames : s.uniforms.map (·.name) = t.uniforms.map (·.name) := by
    simpa [Function.comp_def] using congrArg (List.map Prod.fst) h.uniforms
  have htypes : s.uniforms.map (fun v => UniformType.ofCode? v.tag) =
      t.uniforms.map fun v => UniformType.ofCode? v.tag := by
    simpa [Function.comp_def] using congrArg (List.map Prod.snd) h.uniforms
  have hbases :
      (s.uniforms ++ s.attributes).map (fun v => identifierOf v.name) =
        (t.uniforms ++ t.attributes).map fun v => identifierOf v.name := by
    have happend := congrArg₂ (· ++ ·) hnames h.attributes
    simpa [Function.comp_def] using congrArg (List.map identifierOf) happend
  have hstems : s.stages.map (fun x => x.kind.stem) =
      t.stages.map fun x => x.kind.stem := by
    simpa [Function.comp_def] using congrArg (List.map StageKind.stem) h.kinds
  cases hs : resolve s.uniforms with
  | error e => simp [ofSpec, hs, Bind.bind, Except.bind] at hp
  | ok types =>
    cases ht : resolve t.uniforms with
    | error e => simp [ofSpec, ht, Bind.bind, Except.bind] at hq
    | ok types' =>
      obtain rfl := resolve_congr hs ht htypes
      simp only [ofSpec, hs, ht, Bind.bind, Except.bind, Pure.pure, Except.pure,
        Except.ok.injEq] at hp hq
      subst hp hq
      rw [hbases, hstems]
      have hattributes : ∀ (vs : List Variable) (ids : List String),
          (vs.zip ids).map (fun x => PlannedAttribute.mk x.1.name x.2) =
            ((vs.map (·.name)).zip ids).map fun x => ⟨x.1, x.2⟩ := by
        simp [List.zip_map_left]
      have hstages : ∀ (reload : Bool) (xs : List Stage) (ids : List String),
          ((xs.zip ids).map fun x => PlannedStage.mk x.1 x.2).map
              (·.shown reload) =
            ((xs.map (·.shown reload)).zip ids).map fun x => ⟨x.1, x.2⟩ := by
        simp [List.zip_map_left, PlannedStage.shown]
      have hlength : s.uniforms.length = t.uniforms.length := by
        simpa using congrArg List.length hnames
      have hshown := shown_stages h
      rw [h.options] at hshown
      simp only [shown, placeUniforms_congr hnames, hattributes, hstages,
        h.attributes, hshown, hlength, h.options]

end Plan

namespace ModuleText

variable {version x y : String} {s t : Spec}

theorem exists_plan (h : ofSpec version s = .ok x) :
    ∃ p, Plan.ofSpec s = .ok p ∧ ofPlan version p = x := by
  unfold ofSpec at h
  cases hp : Plan.ofSpec s with
  | error e => rw [hp] at h; cases h
  | ok p =>
    rw [hp] at h
    exact ⟨p, rfl, Except.ok.inj h⟩

/-- The modules of two specifications have the same text exactly if the
specifications agree in their options, in the kinds of their stages, in the
texts of these if they are part of the module and in their paths otherwise, in
the names and the types of their uniforms, and in the names of their
attributes. -/
theorem ofSpec_eq_iff (hs : s.options.check = .ok ())
    (ht : t.options.check = .ok ()) (hx : ofSpec version s = .ok x)
    (hy : ofSpec version t = .ok y) : x = y ↔ s.Agree t := by
  obtain ⟨p, hp, rfl⟩ := exists_plan hx
  obtain ⟨q, hq, rfl⟩ := exists_plan hy
  constructor
  · exact Plan.agree_of_text_eq hs ht hp hq
  · intro h
    rw [← ofPlan_shown p, ← ofPlan_shown q, Plan.shown_of_agree h hp hq]

theorem ofSpec_eq_iff_cube :
    let flat : Spec := ⟨{}, [⟨"a.vert", .vertex, "void main()"⟩],
      [⟨"shape", 0x8B5E⟩, ⟨"it's\na", 0x1406⟩], [⟨"place", 0x8B51⟩]⟩
    let cube : Spec := ⟨{}, [⟨"b/a.vert", .vertex, "void main()"⟩],
      [⟨"shape", 0x8B60⟩, ⟨"it's\na", 0x1406⟩], [⟨"place", 0x8B52⟩]⟩
    let wide : Spec := ⟨{}, [⟨"a.vert", .vertex, "void main()"⟩],
      [⟨"shape", 0x8B5E⟩, ⟨"it's\na", 0x140A⟩], [⟨"place", 0x8B51⟩]⟩
    ∃ x y z, flat.options.check = .ok () ∧
      ofSpec "0.1.0" flat = .ok x ∧ ofSpec "0.1.0" cube = .ok y ∧
      ofSpec "0.1.0" wide = .ok z ∧
      x = y ∧ flat.Agree cube ∧ x ≠ z ∧ ¬ flat.Agree wide := by
  intro flat cube wide
  have hcheck : flat.options.check = .ok () := by decide
  have hcube : flat.Agree cube := by decide
  have hwide : ¬ flat.Agree wide := by decide
  obtain ⟨x, hx⟩ : ∃ x, ofSpec "0.1.0" flat = .ok x := ⟨_, rfl⟩
  obtain ⟨y, hy⟩ : ∃ y, ofSpec "0.1.0" cube = .ok y := ⟨_, rfl⟩
  obtain ⟨z, hz⟩ : ∃ z, ofSpec "0.1.0" wide = .ok z := ⟨_, rfl⟩
  have hxy : x = y ↔ flat.Agree cube := ofSpec_eq_iff hcheck hcheck hx hy
  have hxz : x = z ↔ flat.Agree wide := ofSpec_eq_iff hcheck hcheck hx hz
  exact ⟨x, y, z, hcheck, hx, hy, hz, hxy.mpr hcube, hcube,
    fun h => hwide (hxz.mp h), hwide⟩

end ModuleText

end ShaderBindings
