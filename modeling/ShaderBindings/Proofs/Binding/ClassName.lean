import ShaderBindings.Binding.Loading
import ShaderBindings.Proofs.Arguments.Composition
import ShaderBindings.Proofs.Arguments.Naming
import ShaderBindings.Proofs.Binding.Parameters
import ShaderBindings.Proofs.ModuleText.Agreement
import ShaderBindings.Proofs.ModuleText.Names
import ShaderBindings.Proofs.Text.NormalForm

/-!
# Binding — The name of the class

Which of the names that a class may have denote it wherever its methods use
them. None is that of an import. But a name that a method binds, one that is
private to the class, and one of a built-in that methods read do break them. Of
all names that files suggest only `KeyError` does.
-/

namespace ShaderBindings

variable {plan : Plan} {spec : Spec} {name : String}

/-! ## Names with a capital -/

section Capitals

variable (h : Capitalized name)
include h

theorem Capitalized.ne_of_head {other : String}
    (hother : other.toList.head?.all (!·.isUpper) = true) : name ≠ other := by
  rintro rfl
  obtain ⟨c, rest, hname, hc⟩ := h.front
  simp [hname, hc] at hother

theorem Capitalized.not_bound : name ∉ ModuleText.boundNames := by
  have hlower : ∀ other ∈ ModuleText.boundNames,
      other.toList.head?.all (!·.isUpper) = true := by
    decide
  exact fun hmem => h.ne_of_head (hlower name hmem) rfl

/-- The variable for a stage has an underscore. -/
theorem Capitalized.not_handle (stages : List PlannedStage) :
    name ∉ stages.map Binding.Method.handleVariable := by
  intro hmem
  obtain ⟨s, -, rfl⟩ := List.mem_map.mp hmem
  have := h.letters '_' (by simp [Binding.Method.handleVariable])
  cases this

theorem Capitalized.isNormal : Text.isNormal name = true :=
  Text.isNormal_iff.mpr (Text.normalForm_of_isAscii fun c hc =>
    toNat_lt_of_isAlphanum (h.letters c hc))

theorem Capitalized.not_private : Binding.privateName? name = none := by
  obtain ⟨c, rest, hname, hc⟩ := h.front
  have hne : c ≠ '_' := by
    rintro rfl
    cases hc
  have hnormal := Text.isNormal_iff.mp h.isNormal
  simp [Binding.privateName?, hnormal, hname, hne]

theorem Capitalized.mem_builtinNames_iff :
    name ∈ Binding.builtinNames ↔ name = "KeyError" := by
  have hgetattr : name ≠ "getattr" := h.ne_of_head (by decide)
  have hint : name ≠ "int" := h.ne_of_head (by decide)
  simp [Binding.builtinNames, hgetattr, hint]

end Capitals

namespace Binding

open ModuleText (boundNames classBody heading imports locals)

/-- The name of the class denotes the class in all methods, and hides neither a
built-in name that they read nor the name of an import. -/
structure Denotes (version : String) (plan : Plan) : Prop where
  theClass : Named plan
  builtins : ∀ builtin ∈ builtinNames, hides plan builtin = false
  imported : knownName plan ∉ imports (heading version plan)

theorem knownName_of_isNormal
    (h : Text.isNormal plan.options.className = true) :
    knownName plan = plan.options.className :=
  Text.isNormal_iff.mp h

/-! ## Names that methods bind -/

theorem nameFree_iff : NameFree plan ↔
    knownName plan ∉ boundNames ∧
      knownName plan ∉ plan.stages.map Method.handleVariable := by
  constructor
  · intro h
    have hset := h .setParameter
    have hget := h .getParameter
    have hlocation := h .getLocation
    have hcompile := h .compileShader
    simp only [Method.parameters, Method.ownVariables, List.mem_cons,
      List.not_mem_nil, or_false, not_or] at hset hget hlocation hcompile
    refine ⟨?_, hcompile.2.2⟩
    simp [boundNames, hset, hget, hlocation, hcompile]
  · rintro ⟨hbound, hhandle⟩ m
    simp only [boundNames, List.mem_cons, List.not_mem_nil, or_false,
      not_or] at hbound
    cases m <;> simp [Method.parameters, Method.ownVariables, hbound, hhandle]

/-- A name that denotes the class in all methods is bound by none. -/
theorem Named.nameFree (h : Named plan) : NameFree plan := by
  intro m
  have hmeaning := h m
  unfold Method.meaning at hmeaning
  dsimp only at hmeaning
  split at hmeaning
  next => cases hmeaning
  next =>
    split at hmeaning
    next => split at hmeaning <;> cases hmeaning
    next hparameters =>
      split at hmeaning
      next => cases hmeaning
      next hvariables =>
        exact ⟨by simpa using hparameters, by simpa using hvariables⟩

theorem named_iff : Named plan ↔
    NameFree plan ∧ privateName? plan.options.className = none :=
  ⟨fun h => ⟨h.nameFree, h.nameFree.named_iff.mp h⟩,
    fun h => h.1.named_iff.mpr h.2⟩

theorem hides_eq_false_iff :
    (∀ builtin ∈ builtinNames, hides plan builtin = false) ↔
      knownName plan ∉ builtinNames := by
  simp only [hides, beq_eq_false_iff_ne]
  exact ⟨fun h hmem => h _ hmem rfl, fun h builtin hmem heq => h (heq ▸ hmem)⟩

/-! ## Names that may be given -/

theorem oneWord_of_isName (h : Text.isName name = true) :
    ModuleText.OneWord name where
  blank := notMem_of_isName h (by decide) (by decide)
  equals := notMem_of_isName h (by decide) (by decide)

/-- What modules import is what the class may not be called. -/
theorem imports_subset (version : String) (plan : Plan) :
    imports (heading version plan) ⊆ importedNames := by
  rw [ModuleText.imports_heading]
  cases plan.options.reload <;> cases plan.usesArrays <;> decide

/-- The functions of the class bind the names that the methods do. -/
theorem nameFree_iff_locals (hname : Text.isName plan.options.className = true)
    (hstages : ∀ s ∈ plan.stages, IsPlain s.id) : NameFree plan ↔
      knownName plan ∉ locals (classBody plan) := by
  rw [nameFree_iff, ModuleText.mem_locals_classBody (oneWord_of_isName hname)
    hstages, not_or]

/-- The name of a class denotes it exactly if no method binds or reads it, and
if it is not private to the class. -/
theorem denotes_iff (hname : isClassName plan.options.className = true)
    (hnormal : Text.isNormal plan.options.className = true)
    (hstages : ∀ s ∈ plan.stages, IsPlain s.id) (version : String) :
    Denotes version plan ↔
      plan.options.className ∉ locals (classBody plan) ∧
      plan.options.className ∉ builtinNames ∧
      privateName? plan.options.className = none := by
  have hknown := knownName_of_isNormal hnormal
  have himported : knownName plan ∉ imports (heading version plan) := by
    rw [hknown]
    exact fun h =>
      (isClassName_iff.mp hname).2.2 (imports_subset version plan h)
  have hfree := nameFree_iff_locals (isName_of_isClassName hname) hstages
  have hread : (∀ builtin ∈ builtinNames, hides plan builtin = false) ↔
      knownName plan ∉ builtinNames :=
    hides_eq_false_iff
  rw [hknown] at hfree hread
  constructor
  · rintro ⟨hclass, hbuiltins, -⟩
    obtain ⟨hbound, hprivate⟩ := named_iff.mp hclass
    exact ⟨hfree.mp hbound, hread.mp hbuiltins, hprivate⟩
  · rintro ⟨hbound, hbuiltins, hprivate⟩
    exact ⟨named_iff.mpr ⟨hfree.mpr hbound, hprivate⟩,
      hread.mpr hbuiltins, himported⟩

/-! ## Loading -/

theorem knownName_ne_of_load {version : String} {said : Option String}
    (h : ModuleText.load version plan = .ok said) :
    knownName plan ≠ "__debug__" := by
  intro hname
  unfold knownName at hname
  unfold ModuleText.load at h
  simp only [hname, beq_self_eq_true, if_true] at h
  split at h
  next => cases h
  next =>
    generalize ModuleText.readDocumentation _ _ _ = documentation at h
    cases documentation <;> cases h

/-- A class that can be loaded is found by its name, which is no constant. -/
theorem name_of_load {version : String} {s : Shared}
    (h : Shared.load version plan = .ok s) :
    Text.isNormal plan.options.className = true ∧
      plan.options.className ≠ "__debug__" := by
  unfold Shared.load at h
  cases hload : ModuleText.load version plan with
  | error fault =>
    rw [hload] at h
    cases h
  | ok documentation =>
    cases hnormal : Text.isNormal plan.options.className with
    | true =>
      have hne := knownName_ne_of_load hload
      rw [knownName_of_isNormal hnormal] at hne
      exact ⟨rfl, hne⟩
    | false =>
      rw [hload] at h
      simp only [hnormal] at h
      cases h

/-! ## Names of specifications and of files -/

/-- A name with a capital denotes the class unless it is that of the built-in
error that methods read. -/
theorem denotes_iff_of_capitalized
    (hname : isClassName plan.options.className = true)
    (hstages : ∀ s ∈ plan.stages, IsPlain s.id)
    (h : Capitalized plan.options.className) (version : String) :
    Denotes version plan ↔ plan.options.className ≠ "KeyError" := by
  have hword := oneWord_of_isName (isName_of_isClassName hname)
  have hlocal : plan.options.className ∉ locals (classBody plan) := by
    rw [ModuleText.mem_locals_classBody hword hstages, not_or]
    exact ⟨h.not_bound, h.not_handle plan.stages⟩
  rw [denotes_iff hname h.isNormal hstages version, h.mem_builtinNames_iff]
  exact ⟨fun hname => hname.2.1, fun hne => ⟨hlocal, hne, h.not_private⟩⟩

theorem capitalized_suggestedName (stages : List Stage) :
    Capitalized (Arguments.suggestedName stages) := by
  cases stages with
  | nil =>
    exact ⟨⟨'S', "hader".toList, by decide, rfl⟩,
      List.all_eq_true.mp (by decide)⟩
  | cons first rest =>
    rw [Arguments.suggestedName_cons]
    exact Arguments.capitalized_defaultClassName first.path

/-- A command line without a class name has the one that its first stage
suggests. -/
theorem className_of_parse {fs : File.System} {args : List String}
    {a : Arguments} (h : (Arguments.parse fs args).1 = .ok a)
    (hnever : Arguments.NeverGiven fs Arguments.Request.className? args) :
    a.className = Arguments.suggestedName a.stages := by
  obtain ⟨requests, problems, hread, hrequests⟩ :=
    Arguments.parse_eq_ok_iff.mp h
  have hamount := Arguments.amountTo_of_ofRequests hrequests
  have hgiven := hread.lastGiven Arguments.Request.className?
  rw [hamount.className]
  cases hlast : Arguments.last requests Arguments.Request.className? with
  | none => rfl
  | some name =>
    rw [hlast] at hgiven
    cases hgiven with
    | @last before after arg request value husable hvalue hafter =>
      have := hnever arg (by simp) request husable
      rw [hvalue] at this
      cases this

/-- The name of a class is never that of an import, and its methods bind just
the names of their parameters and variables. In every module that can be loaded
the name denotes the class exactly if it is none of these, none of the built-in
names that methods read, and not private to the class. A name that comes from a
file is always found, and it denotes the class unless it is `KeyError`. -/
theorem ofSpec_denotes_iff (version : String)
    (h : Plan.ofSpec spec = .ok plan) (hcheck : spec.options.check = .ok ()) :
    (∀ name ∈ imports (heading version plan),
      name ∈ importedNames ∧ name ≠ plan.options.className) ∧
    (∀ name, name ∈ locals (classBody plan) ↔
      name ∈ boundNames ∨ ∃ s ∈ plan.stages, name = s.id ++ "_shader") ∧
    (∀ s, Shared.load version plan = .ok s →
      Text.isNormal plan.options.className = true ∧
      plan.options.className ≠ "__debug__" ∧
      (Denotes version plan ↔
        plan.options.className ∉ locals (classBody plan) ∧
        plan.options.className ∉ builtinNames ∧
        privateName? plan.options.className = none)) ∧
    ∀ fs args a, (Arguments.parse fs args).1 = .ok a →
      Arguments.NeverGiven fs Arguments.Request.className? args →
      a.className = plan.options.className →
      Text.isNormal plan.options.className = true ∧
      (Denotes version plan ↔ plan.options.className ≠ "KeyError") := by
  have hname : isClassName plan.options.className = true := by
    rw [(Plan.places_of_ofSpec h).options]
    exact (Options.check_eq_ok_iff.mp hcheck).1
  have hstages := (Plan.identified_of_ofSpec h).stagesPlain
  have hword := oneWord_of_isName (isName_of_isClassName hname)
  refine ⟨fun name hmem => ?_, fun name => ?_, fun s hload => ?_, ?_⟩
  · have himported := imports_subset version plan hmem
    refine ⟨himported, ?_⟩
    rintro rfl
    exact (isClassName_iff.mp hname).2.2 himported
  · rw [ModuleText.mem_locals_classBody hword hstages, List.mem_map]
    simp only [Method.handleVariable, eq_comm]
  · obtain ⟨hnormal, hconstant⟩ := name_of_load hload
    exact ⟨hnormal, hconstant, denotes_iff hname hnormal hstages version⟩
  · intro fs args a ha hnever heq
    have hcapital := capitalized_suggestedName a.stages
    rw [← className_of_parse ha hnever, heq] at hcapital
    exact ⟨hcapital.isNormal,
      denotes_iff_of_capitalized hname hstages hcapital version⟩

/-- A file may be called like the error that methods read. -/
theorem ofSpec_denotes_iff_keyError :
    let fs : File.System := { entries := [(["keyError.vert"], .file [0x3b])] }
    ∃ a plan, (Arguments.parse fs ["keyError.vert"]).1 = .ok a ∧
      a.options.check = .ok () ∧
      Plan.ofSpec ⟨a.options, a.stages, [⟨"f", 0x1406⟩], []⟩ = .ok plan ∧
      plan.options.className = "KeyError" ∧
      ¬ Denotes ModuleText.toolVersion plan := by
  intro fs
  obtain ⟨stage, hstage⟩ : ∃ s : Stage, s = ⟨"keyError.vert", .vertex, ";"⟩ :=
    ⟨_, rfl⟩
  obtain ⟨a, ha⟩ : ∃ a : Arguments, a =
      { stages := [stage], output := some ⟨.relative, ["keyError.py"]⟩,
        className := "KeyError" } :=
    ⟨_, rfl⟩
  have hparse : (Arguments.parse fs ["keyError.vert"]).1 = .ok a := by
    rw [ha, hstage]
    decide +kernel
  have hread : Arguments.read fs "keyError.vert" =
      .accepted (.stage stage) := by
    rw [hstage]
    decide +kernel
  have hnever : Arguments.NeverGiven fs Arguments.Request.className?
      ["keyError.vert"] := by
    intro arg harg request husable
    rw [List.mem_singleton.mp harg] at husable
    cases hread.symm.trans husable.read_eq
    rfl
  have hcheck : a.options.check = .ok () := by
    rw [ha, hstage]
    decide +kernel
  obtain ⟨plan, hname, hplan⟩ : ∃ plan : Plan,
      plan.options.className = "KeyError" ∧
      Plan.ofSpec ⟨a.options, a.stages, [⟨"f", 0x1406⟩], []⟩ = .ok plan := by
    refine ⟨⟨a.options, [⟨"f", "f", .scalar .float, none⟩], [],
      [⟨stage, "vertex"⟩]⟩, ?_, ?_⟩
    · rw [ha]
      rfl
    · rw [ha, hstage]
      rfl
  have hdenotes := ((ofSpec_denotes_iff ModuleText.toolVersion hplan
    hcheck).2.2.2 fs ["keyError.vert"] a hparse hnever (by rw [hname, ha])).2
  exact ⟨a, plan, hparse, hcheck, hplan, hname,
    fun h => hdenotes.mp h hname⟩

end Binding

end ShaderBindings
