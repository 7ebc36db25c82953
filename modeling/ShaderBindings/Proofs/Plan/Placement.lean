import Mathlib.Data.List.Nodup
import Mathlib.Data.List.Perm.Subperm
import ShaderBindings.Plan

/-!
# Plans — Placement

Where the variables of a specification are in its plan. Every uniform is there
in its place, under its name and with the type of its tag; the textures are
counted through; and of the identifiers that were made up, no two are the same.
-/

namespace ShaderBindings

/-! ## Identifiers -/

theorem numbered_inj {base : String} {m n : Nat}
    (h : numbered base m = numbered base n) : m = n := by
  have hchars := congrArg String.toList h
  simp only [numbered, toString, String.toList_append] at hchars
  have hdigits := List.append_cancel_left hchars
  have hvalue := congrArg (fun ds => Nat.ofDigitChars 10 ds 0) hdigits
  simpa [Nat.repr] using hvalue

section Names

variable {taken : List String} {base : String}

/-- A search that ends at a name that is taken has found all candidates
taken. -/
theorem mem_of_firstFree_mem {n count : Nat}
    (h : firstFree taken base n count ∈ taken) :
    ∀ i, i ≤ count → numbered base (n + i) ∈ taken := by
  induction count generalizing n with
  | zero =>
    intro i hi
    obtain rfl : i = 0 := by omega
    exact h
  | succ count ih =>
    intro i hi
    rw [firstFree] at h
    by_cases hn : taken.contains (numbered base n) = true
    · rw [if_pos hn] at h
      cases i with
      | zero => exact List.contains_iff_mem.mp hn
      | succ i =>
        have hi := ih h i (by omega)
        rwa [Nat.add_assoc, Nat.add_comm 1 i] at hi
    · rw [if_neg hn] at h
      exact absurd (List.contains_iff_mem.mpr h) hn

/-- Of one more candidate than there are names taken, one is free. -/
theorem firstFree_not_mem (n : Nat) :
    firstFree taken base n taken.length ∉ taken := by
  intro h
  let candidates := (List.range (taken.length + 1)).map fun i =>
    numbered base (n + i)
  have hnodup : candidates.Nodup := by
    refine List.Nodup.map ?_ List.nodup_range
    intro i j hij
    have := numbered_inj hij
    omega
  have hsubset : candidates ⊆ taken := by
    intro name hname
    obtain ⟨i, hi, rfl⟩ := List.mem_map.mp hname
    have hi := List.mem_range.mp hi
    exact mem_of_firstFree_mem h i (by omega)
  -- there is not enough room for all the candidates
  have hlength : candidates.length ≤ taken.length :=
    (hnodup.subperm hsubset).length_le
  rw [List.length_map, List.length_range] at hlength
  omega

theorem uniqueName_not_mem (taken : List String) (base : String) :
    uniqueName taken base ∉ taken := by
  unfold uniqueName
  by_cases h : taken.contains base = true
  · rw [if_pos h]
    exact firstFree_not_mem 2
  · rw [if_neg h]
    simpa using h

end Names

theorem uniqueNames_length (taken bases : List String) :
    (uniqueNames taken bases).length = bases.length := by
  induction bases generalizing taken with
  | nil => rfl
  | cons base rest ih => simp [uniqueNames, ih]

theorem not_mem_of_mem_uniqueNames {taken bases : List String} {name : String}
    (h : name ∈ uniqueNames taken bases) : name ∉ taken := by
  induction bases generalizing taken with
  | nil => cases h
  | cons base rest ih =>
    obtain rfl | hrest := List.mem_cons.mp h
    · exact uniqueName_not_mem _ _
    · intro htaken
      exact ih hrest (List.mem_cons_of_mem _ htaken)

/-- No two of the names that were made up are the same. -/
theorem uniqueNames_nodup (taken bases : List String) :
    (uniqueNames taken bases).Nodup := by
  induction bases generalizing taken with
  | nil => exact List.nodup_nil
  | cons base rest ih =>
    refine List.nodup_cons.mpr ⟨fun h => ?_, ih _⟩
    exact not_mem_of_mem_uniqueNames h List.mem_cons_self

namespace Plan

/-! ## Uniforms in their places -/

/-- The uniform stands for the variable: it has its name, and the type of its
tag. Textures are the uniforms that have units. -/
structure StandsFor (v : Variable) (u : PlannedUniform) : Prop where
  name : u.name = v.name
  type : UniformType.ofCode? v.tag = some u.type
  unit : u.unit.isSome = true ↔ u.type = .texture

theorem resolve_ok {vs : List Variable} {types : List UniformType}
    (h : resolve vs = .ok types) :
    List.Forall₂ (fun v t => UniformType.ofCode? v.tag = some t) vs types := by
  induction vs generalizing types with
  | nil =>
    cases h
    exact .nil
  | cons v rest ih =>
    cases ht : UniformType.ofCode? v.tag with
    | none => simp [resolve, ht] at h
    | some t =>
      cases hrest : resolve rest with
      | error e => simp [resolve, ht, hrest, Except.map] at h
      | ok ts =>
        simp only [resolve, ht, hrest, Except.map, Except.ok.injEq] at h
        subst h
        exact .cons ht (ih hrest)

section Placing

variable {vs : List Variable} {ids : List String} {types : List UniformType}

theorem placeUniforms_standsFor
    (h : List.Forall₂ (fun v t => UniformType.ofCode? v.tag = some t) vs types)
    (hids : vs.length ≤ ids.length) (unit : Nat) :
    List.Forall₂ StandsFor vs (placeUniforms unit vs ids types) := by
  induction h generalizing ids unit with
  | nil => exact .nil
  | @cons v t vs types ht _ ih =>
    cases ids with
    | nil => simp at hids
    | cons id ids =>
      have hids : vs.length ≤ ids.length := by simpa using hids
      unfold placeUniforms
      by_cases htexture : t = .texture
      · rw [if_pos htexture]
        exact .cons ⟨rfl, ht, by simp [htexture]⟩ (ih hids _)
      · rw [if_neg htexture]
        exact .cons ⟨rfl, ht, by simp [htexture]⟩ (ih hids _)

theorem placeUniforms_ids (htypes : types.length = vs.length)
    (hids : vs.length ≤ ids.length) (unit : Nat) :
    (placeUniforms unit vs ids types).map (·.id) = ids.take vs.length := by
  induction vs generalizing ids types unit with
  | nil => simp [placeUniforms]
  | cons v vs ih =>
    cases ids with
    | nil => simp at hids
    | cons id ids =>
      cases types with
      | nil => simp at htypes
      | cons t types =>
        have htypes : types.length = vs.length := by simpa using htypes
        have hids : vs.length ≤ ids.length := by simpa using hids
        unfold placeUniforms
        by_cases htexture : t = .texture
        · simp [htexture, ih htypes hids]
        · simp [htexture, ih htypes hids]

/-- The textures are counted through, from the first unit on. -/
theorem placeUniforms_units (unit : Nat) (vs : List Variable)
    (ids : List String) (types : List UniformType) :
    ∃ n, (placeUniforms unit vs ids types).filterMap (·.unit) =
      List.range' unit n := by
  induction vs generalizing ids types unit with
  | nil => exact ⟨0, by simp [placeUniforms]⟩
  | cons v vs ih =>
    cases ids with
    | nil => exact ⟨0, by simp [placeUniforms]⟩
    | cons id ids =>
      cases types with
      | nil => exact ⟨0, by simp [placeUniforms]⟩
      | cons t types =>
        unfold placeUniforms
        by_cases htexture : t = .texture
        · obtain ⟨n, hn⟩ := ih (unit + 1) ids types
          exact ⟨n + 1, by simp [htexture, hn, List.range'_succ]⟩
        · obtain ⟨n, hn⟩ := ih unit ids types
          exact ⟨n, by simp [htexture, hn]⟩

end Placing

/-! ## Variables in their places -/

/-- The names of the textures, in order. -/
def textureNames (spec : Spec) : List String :=
  (spec.uniforms.filter fun v =>
    UniformType.ofCode? v.tag == some .texture).map (·.name)

/-- The plan has all that the specification has, in its order. -/
structure Places (plan : Plan) (spec : Spec) : Prop where
  options : plan.options = spec.options
  uniforms : List.Forall₂ StandsFor spec.uniforms plan.uniforms
  attributes :
    plan.attributes.map (·.name) = spec.attributes.map (·.name)
  units : ∃ n, plan.uniforms.filterMap (·.unit) = List.range n
  ids : (plan.located.map Prod.snd).Nodup

/-- The identifiers of all variables are made up in one go, those of the
uniforms first. -/
theorem located_ids_of_ofSpec {spec : Spec} {plan : Plan}
    (h : ofSpec spec = .ok plan) :
    plan.located.map Prod.snd = uniqueNames []
      ((spec.uniforms ++ spec.attributes).map fun v => identifierOf v.name) := by
  cases htypes : resolve spec.uniforms with
  | error e => simp [ofSpec, htypes, Bind.bind, Except.bind] at h
  | ok types =>
    simp only [ofSpec, htypes, Bind.bind, Except.bind, Pure.pure, Except.pure,
      Except.ok.injEq] at h
    subst h
    generalize hids : uniqueNames [] ((spec.uniforms ++ spec.attributes).map
      fun v => identifierOf v.name) = ids
    have hlength :
        ids.length = spec.uniforms.length + spec.attributes.length := by
      rw [← hids, uniqueNames_length]
      simp
    have huniforms : (placeUniforms 0 spec.uniforms ids types).map (·.id) =
        ids.take spec.uniforms.length :=
      placeUniforms_ids (resolve_ok htypes).length_eq.symm (by omega) 0
    -- the identifiers that are left over by the uniforms are the attributes'
    let attributeIds := ids.drop spec.uniforms.length
    have hattributes :
        (spec.attributes.zip attributeIds).map Prod.snd = attributeIds := by
      refine List.map_snd_zip ?_
      rw [List.length_drop]
      omega
    calc
      _ = (placeUniforms 0 spec.uniforms ids types).map (·.id) ++
          (spec.attributes.zip attributeIds).map Prod.snd := by
        simp [located, attributeIds, Function.comp_def]
      _ = ids.take spec.uniforms.length ++ attributeIds := by
        rw [huniforms, hattributes]
      _ = ids := List.take_append_drop _ _

/-- The stages are those of the specification, under the identifiers that are
made up for their kinds. -/
theorem stages_of_ofSpec {spec : Spec} {plan : Plan}
    (h : ofSpec spec = .ok plan) :
    plan.stages.map (·.stage) = spec.stages ∧
    plan.stages.map (·.id) =
      uniqueNames [] (spec.stages.map fun s => s.kind.stem) := by
  cases htypes : resolve spec.uniforms with
  | error e => simp [ofSpec, htypes, Bind.bind, Except.bind] at h
  | ok types =>
    simp only [ofSpec, htypes, Bind.bind, Except.bind, Pure.pure, Except.pure,
      Except.ok.injEq] at h
    subst h
    generalize hids :
      uniqueNames [] (spec.stages.map fun s => s.kind.stem) = ids
    have hlength : ids.length = spec.stages.length := by
      rw [← hids, uniqueNames_length]
      simp
    have hfirst : (spec.stages.zip ids).map Prod.fst = spec.stages :=
      List.map_fst_zip (by omega)
    have hsecond : (spec.stages.zip ids).map Prod.snd = ids :=
      List.map_snd_zip (by omega)
    simp only [List.map_map, Function.comp_def]
    exact ⟨hfirst, hsecond⟩

/-- The plan of a specification has everything in its place. -/
theorem places_of_ofSpec {spec : Spec} {plan : Plan}
    (h : ofSpec spec = .ok plan) : plan.Places spec := by
  have hnodup : (plan.located.map Prod.snd).Nodup := by
    rw [located_ids_of_ofSpec h]
    exact uniqueNames_nodup _ _
  cases htypes : resolve spec.uniforms with
  | error e => simp [ofSpec, htypes, Bind.bind, Except.bind] at h
  | ok types =>
    simp only [ofSpec, htypes, Bind.bind, Except.bind, Pure.pure, Except.pure,
      Except.ok.injEq] at h
    subst h
    generalize hids : uniqueNames [] ((spec.uniforms ++ spec.attributes).map
      fun v => identifierOf v.name) = ids at hnodup ⊢
    have hlength :
        ids.length = spec.uniforms.length + spec.attributes.length := by
      rw [← hids, uniqueNames_length]
      simp
    have hattributes : (spec.attributes.zip
        (ids.drop spec.uniforms.length)).map Prod.fst = spec.attributes := by
      refine List.map_fst_zip ?_
      rw [List.length_drop]
      omega
    refine ⟨rfl, placeUniforms_standsFor (resolve_ok htypes) (by omega) 0, ?_,
      ?_, hnodup⟩
    · calc
        _ = ((spec.attributes.zip
            (ids.drop spec.uniforms.length)).map Prod.fst).map (·.name) := by
          simp [Function.comp_def]
        _ = spec.attributes.map (·.name) := by rw [hattributes]
    · obtain ⟨n, hn⟩ := placeUniforms_units 0 spec.uniforms ids types
      exact ⟨n, by simpa [List.range_eq_range'] using hn⟩

namespace Places

variable {plan : Plan} {spec : Spec} {u u' : PlannedUniform}

theorem names (h : plan.Places spec) :
    plan.uniforms.map (·.name) = spec.uniforms.map (·.name) := by
  have hnames : ∀ {vs us}, List.Forall₂ StandsFor vs us →
      us.map (·.name) = vs.map (·.name) := by
    intro vs us hall
    induction hall with
    | nil => rfl
    | cons hstands _ ih => simp [hstands.name, ih]
  exact hnames h.uniforms

theorem names_nodup (h : plan.Places spec)
    (hdistinct : (spec.uniforms.map (·.name)).Nodup) :
    (plan.uniforms.map (·.name)).Nodup := by
  rwa [h.names]

/-- Of distinct names, each is that of one uniform. -/
theorem name_inj (h : plan.Places spec)
    (hdistinct : (spec.uniforms.map (·.name)).Nodup) (hu : u ∈ plan.uniforms)
    (hu' : u' ∈ plan.uniforms) (hname : u.name = u'.name) : u = u' :=
  List.inj_on_of_nodup_map (h.names_nodup hdistinct) hu hu' hname

/-- Every variable has its uniform. -/
theorem exists_uniform (h : plan.Places spec) {v : Variable}
    (hv : v ∈ spec.uniforms) : ∃ u ∈ plan.uniforms, StandsFor v u := by
  obtain ⟨i, hi, rfl⟩ := List.mem_iff_getElem.mp hv
  have hi' : i < plan.uniforms.length := h.uniforms.length_eq ▸ hi
  exact ⟨plan.uniforms[i], List.getElem_mem hi',
    (List.forall₂_iff_get.mp h.uniforms).2 i hi hi'⟩

/-- Every uniform stands for a variable. -/
theorem exists_variable (h : plan.Places spec) (hu : u ∈ plan.uniforms) :
    ∃ v ∈ spec.uniforms, StandsFor v u := by
  obtain ⟨i, hi, rfl⟩ := List.mem_iff_getElem.mp hu
  have hi' : i < spec.uniforms.length := h.uniforms.length_eq ▸ hi
  exact ⟨spec.uniforms[i], List.getElem_mem hi',
    (List.forall₂_iff_get.mp h.uniforms).2 i hi' hi⟩

theorem ids_nodup (h : plan.Places spec) :
    (plan.uniforms.map (·.id)).Nodup := by
  have hall := h.ids
  simp only [located, List.map_append, List.map_map] at hall
  exact (List.nodup_append.mp hall).1

/-- Uniforms with the same identifier are one and the same. -/
theorem id_inj (h : plan.Places spec) (hu : u ∈ plan.uniforms)
    (hu' : u' ∈ plan.uniforms) (hid : u.id = u'.id) : u = u' :=
  List.inj_on_of_nodup_map h.ids_nodup hu hu' hid

/-- The textures have the units from zero on, in order. -/
theorem textures_units (h : plan.Places spec) :
    plan.textures.map (·.unit) =
      (List.range plan.textures.length).map some := by
  obtain ⟨n, hn⟩ := h.units
  have hunits : plan.textures.map (·.unit) = (List.range n).map some := by
    rw [← hn, textures]
    induction plan.uniforms with
    | nil => rfl
    | cons u rest ih => cases hu : u.unit <;> simp [hu, ih]
  have hlength : plan.textures.length = n := by
    simpa using congrArg List.length hunits
  rw [hunits, hlength]

/-- The textures are the uniforms for the variables that are textures. -/
theorem textures_names (h : plan.Places spec) :
    plan.textures.map (·.name) = textureNames spec := by
  have hnames : ∀ {vs us}, List.Forall₂ StandsFor vs us →
      (us.filter fun u => u.unit.isSome).map (·.name) =
        (vs.filter fun v =>
          UniformType.ofCode? v.tag == some .texture).map (·.name) := by
    intro vs us hall
    induction hall with
    | nil => rfl
    | @cons v u vs us hstands _ ih =>
      obtain ⟨hname, htype, hunit⟩ := hstands
      by_cases htexture : u.type = .texture
      · have hsome := hunit.mpr htexture
        rw [htexture] at htype
        simp [hsome, htype, hname, ih]
      · have hnone : ¬ u.unit.isSome = true := fun hsome =>
          htexture (hunit.mp hsome)
        simp [hnone, htype, htexture, ih]
  exact hnames h.uniforms

end Places

end Plan

end ShaderBindings
