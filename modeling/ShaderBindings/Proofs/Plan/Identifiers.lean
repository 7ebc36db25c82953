import ShaderBindings.Binding.Fields
import ShaderBindings.ModuleText.Fields
import ShaderBindings.Proofs.Plan.Placement

/-!
# Plans — Identifiers

How the identifiers of a plan come about. An item keeps the identifier of its
name if no item before it has it, and otherwise gets the least number that makes
it free; so the identifiers depend on nothing but the items before them. They
are distinct, and they hold letters, digits and underscores only. It follows
that no two fields of the class, no two fields of an instance and no two
variables of the method that compiles the program have the same name.
-/

namespace ShaderBindings

/-! ## Names derived from bases -/

/-- How an item's name comes from its base after the names of the items before
it. The base is kept if it is free. Otherwise it gets the least number from two
on that makes it free, which the search has found when it has tried one number
more than there are names. -/
inductive Derived (earlier : List String) (base : String) : String → Prop
  | base (hfree : base ∉ earlier) : Derived earlier base base
  | numbered (n : Nat) (htaken : base ∈ earlier) (htwo : 2 ≤ n)
      (hbound : n ≤ earlier.length + 2) (hfree : numbered base n ∉ earlier)
      (hleast : ∀ m, 2 ≤ m → m < n → numbered base m ∈ earlier) :
      Derived earlier base (numbered base n)

/-- Each name comes from the base in its place, after all names before it. -/
inductive DerivedAll : List String → List String → List String → Prop
  | nil {earlier : List String} : DerivedAll earlier [] []
  | cons {earlier bases names : List String} {base name : String}
      (hname : Derived earlier base name)
      (hrest : DerivedAll (name :: earlier) bases names) :
      DerivedAll earlier (base :: bases) (name :: names)

/-- The search passes over taken candidates only. -/
theorem firstFree_passes (taken : List String) (base : String) (n count : Nat) :
    ∃ m, n ≤ m ∧ m ≤ n + count ∧
      firstFree taken base n count = numbered base m ∧
      ∀ k, n ≤ k → k < m → numbered base k ∈ taken := by
  induction count generalizing n with
  | zero => exact ⟨n, by omega, by omega, rfl, fun k hk hlt => by omega⟩
  | succ count ih =>
    by_cases htaken : taken.contains (numbered base n) = true
    · obtain ⟨m, hle, hbound, heq, hpassed⟩ := ih (n + 1)
      have hpass : firstFree taken base n (count + 1) =
          firstFree taken base (n + 1) count := by
        simp only [firstFree, htaken, ↓reduceIte]
      refine ⟨m, by omega, by omega, hpass.trans heq, ?_⟩
      intro k hk hlt
      rcases Nat.lt_or_ge n k with hgt | hge
      · exact hpassed k (by omega) hlt
      · have : k = n := by omega
        subst this
        simpa using htaken
    · refine ⟨n, by omega, by omega, ?_, fun k hk hlt => by omega⟩
      simp only [firstFree, htaken, Bool.false_eq_true, ↓reduceIte]

theorem uniqueName_derived (taken : List String) (base : String) :
    Derived taken base (uniqueName taken base) := by
  by_cases htaken : base ∈ taken
  · obtain ⟨m, htwo, hbound, heq, hpassed⟩ :=
      firstFree_passes taken base 2 taken.length
    have hname : uniqueName taken base = numbered base m := by
      simpa [uniqueName, htaken] using heq
    have hfree : numbered base m ∉ taken := by
      rw [← hname]
      exact uniqueName_not_mem taken base
    rw [hname]
    exact .numbered m htaken htwo (by omega) hfree hpassed
  · have hname : uniqueName taken base = base := by simp [uniqueName, htaken]
    rw [hname]
    exact .base htaken

/-- There is one way only to come from a base. -/
theorem Derived.eq_uniqueName {earlier : List String} {base name : String}
    (h : Derived earlier base name) : name = uniqueName earlier base := by
  have h' := uniqueName_derived earlier base
  generalize uniqueName earlier base = name' at h'
  cases h with
  | base hfree =>
    cases h' with
    | base => rfl
    | numbered n htaken => exact absurd htaken hfree
  | numbered n htaken htwo _ hfree hleast =>
    cases h' with
    | base hfree => exact absurd htaken hfree
    | numbered n' _ htwo' _ hfree' hleast' =>
      rcases Nat.lt_trichotomy n n' with hlt | heq | hlt
      · exact absurd (hleast' n htwo hlt) hfree
      · rw [heq]
      · exact absurd (hleast n' htwo' hlt) hfree'

theorem uniqueNames_derived (taken bases : List String) :
    DerivedAll taken bases (uniqueNames taken bases) := by
  induction bases generalizing taken with
  | nil => exact .nil
  | cons base rest ih => exact .cons (uniqueName_derived taken base) (ih _)

/-- The names of the first items depend on the first items only. -/
theorem uniqueNames_take (taken bases : List String) (n : Nat) :
    (uniqueNames taken bases).take n = uniqueNames taken (bases.take n) := by
  induction bases generalizing taken n with
  | nil => simp [uniqueNames]
  | cons base rest ih =>
    cases n with
    | zero => simp [uniqueNames]
    | succ n => simp [uniqueNames, ih]

/-! ## The characters of names -/

/-- A text of ASCII letters, ASCII digits and underscores. -/
def IsPlain (s : String) : Prop :=
  ∀ c ∈ s.toList, Text.isWordChar c = true

instance (s : String) : Decidable (IsPlain s) :=
  decidable_of_iff (s.toList.all Text.isWordChar = true) List.all_eq_true

theorem IsPlain.append {s t : String} (hs : IsPlain s) (ht : IsPlain t) :
    IsPlain (s ++ t) := by
  intro c hc
  rw [String.toList_append] at hc
  rcases List.mem_append.mp hc with hc | hc
  · exact hs c hc
  · exact ht c hc

theorem identifierOf_isPlain (name : String) : IsPlain (identifierOf name) := by
  intro c hc
  simp only [identifierOf, String.toList_ofList, List.mem_map] at hc
  obtain ⟨d, _, rfl⟩ := hc
  by_cases hword : Text.isWordChar d = true
  · rwa [if_pos hword]
  · rw [if_neg hword]
    decide

theorem StageKind.stem_isPlain (kind : StageKind) : IsPlain kind.stem := by
  cases kind <;> decide

theorem numbered_toList (base : String) (n : Nat) :
    (numbered base n).toList = base.toList ++ '_' :: Nat.toDigits 10 n := by
  simp only [numbered, toString, String.toList_append]
  simp

theorem numbered_isPlain {base : String} (h : IsPlain base) (n : Nat) :
    IsPlain (numbered base n) := by
  intro c hc
  rw [numbered_toList] at hc
  rcases List.mem_append.mp hc with hbase | hrest
  · exact h c hbase
  · rcases List.mem_cons.mp hrest with rfl | hdigit
    · decide
    · have := Nat.isDigit_of_mem_toDigits (by decide) (by decide) hdigit
      simp [Text.isWordChar, Char.isAlphanum, this]

section DerivedNames

variable {earlier bases names : List String} {base name : String}

theorem Derived.isPlain (h : Derived earlier base name) (hbase : IsPlain base) :
    IsPlain name := by
  cases h with
  | base => exact hbase
  | numbered n => exact numbered_isPlain hbase n

/-- A name starts with its base. -/
theorem Derived.starts (h : Derived earlier base name) :
    base.toList <+: name.toList := by
  cases h with
  | base => exact List.prefix_rfl
  | numbered n =>
    rw [numbered_toList]
    exact List.prefix_append _ _

theorem DerivedAll.isPlain (h : DerivedAll earlier bases names)
    (hbases : ∀ base ∈ bases, IsPlain base) : ∀ name ∈ names, IsPlain name := by
  induction h with
  | nil => simp
  | cons hname _ ih =>
    intro name hmem
    rcases List.mem_cons.mp hmem with rfl | hmem
    · exact hname.isPlain (hbases _ List.mem_cons_self)
    · exact ih (fun base hbase => hbases base (List.mem_cons_of_mem _ hbase)) _
        hmem

theorem DerivedAll.exists_start (h : DerivedAll earlier bases names)
    (hmem : name ∈ names) : ∃ base ∈ bases, base.toList <+: name.toList := by
  induction h with
  | nil => cases hmem
  | cons hname _ ih =>
    rcases List.mem_cons.mp hmem with rfl | hmem
    · exact ⟨_, List.mem_cons_self, hname.starts⟩
    · obtain ⟨base, hbase, hstart⟩ := ih hmem
      exact ⟨base, List.mem_cons_of_mem _ hbase, hstart⟩

end DerivedNames

namespace Plan

/-! ## Names of the generated class -/

/-- The names that a block of lines sets or declares, each at the front of its
line. What is deeper belongs to the line above. -/
def assigned : List Item → List String
  | [] => []
  | .line text :: rest =>
    match text.toList.takeWhile Text.isWordChar with
    | [] => assigned rest
    | name => .ofList name :: assigned rest
  | _ :: rest => assigned rest

theorem assigned_append (xs ys : List Item) :
    assigned (xs ++ ys) = assigned xs ++ assigned ys := by
  induction xs with
  | nil => rfl
  | cons item rest ih =>
    cases item with
    | line text =>
      simp only [assigned, List.cons_append]
      cases text.toList.takeWhile Text.isWordChar <;> simp [ih]
    | separate | suite | deeper => simpa [assigned] using ih

/-- The line starts with the name, and the name ends there. -/
structure Sets (text name : String) : Prop where
  plain : IsPlain name
  nonempty : name ≠ ""
  rest : ∃ c more, text.toList = name.toList ++ c :: more ∧
    Text.isWordChar c = false

theorem assigned_line {text name : String} (h : Sets text name)
    (rest : List Item) :
    assigned (.line text :: rest) = name :: assigned rest := by
  obtain ⟨hplain, hnonempty, c, more, htext, hstop⟩ := h
  have hread : text.toList.takeWhile Text.isWordChar = name.toList := by
    rw [htext, List.takeWhile_append_of_pos hplain]
    simp [hstop]
  have hsome : name.toList ≠ [] := by simpa using hnonempty
  simp only [assigned, hread]
  rw [String.ofList_toList]

theorem assigned_lines {α : Type} {xs : List α} {text name : α → String}
    (h : ∀ x ∈ xs, Sets (text x) (name x)) :
    assigned (xs.map fun x => .line (text x)) = xs.map name := by
  induction xs with
  | nil => rfl
  | cons x xs ih =>
    rw [List.map_cons, assigned_line (h x List.mem_cons_self),
      ih fun y hy => h y (List.mem_cons_of_mem _ hy), List.map_cons]

theorem assigned_mapping (name : String) (hplain : IsPlain name)
    (hnonempty : name ≠ "") (entries : List (String × String)) :
    assigned (ModuleText.mapping name entries) = [name] := by
  unfold ModuleText.mapping
  by_cases hempty : entries.isEmpty = true
  · rw [if_pos hempty]
    refine assigned_line
      ⟨hplain, hnonempty, ' ', "= \x7b\x7d".toList, ?_, by decide⟩ []
    simp [toString]
  · rw [if_neg hempty]
    rw [assigned_line ⟨hplain, hnonempty, ' ', "= \x7b".toList, ?_, by decide⟩]
    · simp [assigned, Text.isWordChar]
    · simp [toString]

/-- The names of the fields that all instances share, as the class sets
them. -/
def sharedNames (plan : Plan) : List String :=
  ["_program_id", "_references"] ++
  (plan.located.map Prod.snd).map (fun id => "_loc_" ++ id) ++
  (plan.stages.map (·.id)).map (fun id => "_" ++ id ++ "_source") ++
  ["_UNIFORMS", "_LOCATIONS"]

/-- The lines that set the shared fields set these names. -/
theorem assigned_sharedFields {plan : Plan}
    (hlocated : ∀ id ∈ plan.located.map Prod.snd, IsPlain id)
    (hstages : ∀ id ∈ plan.stages.map (·.id), IsPlain id) :
    assigned (ModuleText.sharedFields plan) = sharedNames plan := by
  have hlocations :
      assigned (plan.located.map fun v => .line s!"_loc_{v.2} = -1") =
        plan.located.map fun v => "_loc_" ++ v.2 := by
    refine assigned_lines fun v hv =>
      ⟨?_, by simp, ' ', "= -1".toList, ?_, by decide⟩
    · exact IsPlain.append (by decide) (hlocated _ (List.mem_map_of_mem hv))
    · simp [toString]
  have hsources :
      assigned (plan.stages.map fun s =>
        if plan.options.reload then Item.line s!"_{s.id}_source: str"
        else .line s!"_{s.id}_source = {Text.literal s.stage.text}") =
        plan.stages.map fun s => "_" ++ s.id ++ "_source" := by
    have hplain : ∀ s ∈ plan.stages, IsPlain ("_" ++ s.id ++ "_source") :=
      fun s hs => .append (.append (by decide)
        (hstages _ (List.mem_map_of_mem hs))) (by decide)
    by_cases hreload : plan.options.reload = true
    · simp only [hreload, if_true]
      refine assigned_lines fun s hs =>
        ⟨hplain s hs, by simp, ':', " str".toList, ?_, by decide⟩
      simp [toString]
    · simp only [hreload]
      refine assigned_lines fun s hs => ⟨hplain s hs, by simp, ' ',
        ("= " ++ Text.literal s.stage.text).toList, ?_, by decide⟩
      simp [toString]
  have hfirst : ∀ rest, assigned ([.line "_program_id = 0",
      .line "_references: runtime.Counter", .blank] ++ rest) =
        ["_program_id", "_references"] ++ assigned rest := by
    intro rest
    rw [assigned_append]
    rfl
  simp only [ModuleText.sharedFields, sharedNames, List.append_assoc, hfirst,
    assigned_append, hlocations, hsources,
    assigned_mapping "_UNIFORMS" (by decide) (by decide),
    assigned_mapping "_LOCATIONS" (by decide) (by decide)]
  simp [assigned, Item.blank, Function.comp_def]

/-- The character in a place is one of these. -/
def CharAt (n : Nat) (cs : List Char) (name : String) : Prop :=
  ∃ c ∈ cs, name.toList[n]? = some c

theorem ne_of_charAt {n : Nat} {cs ds : List Char} {s t : String}
    (hs : CharAt n cs s) (ht : CharAt n ds t) (hapart : ∀ c ∈ cs, c ∉ ds) :
    s ≠ t := by
  rintro rfl
  obtain ⟨c, hc, hs⟩ := hs
  obtain ⟨d, hd, ht⟩ := ht
  obtain rfl : c = d := by simpa [hs] using ht
  exact hapart c hc hd

/-- What the names of stages start with. -/
def stageInitials : List Char := ['v', 'f', 'g', 't', 'c']

theorem charAt_of_stem {kind : StageKind} {id : String}
    (h : kind.stem.toList <+: id.toList) : CharAt 0 stageInitials id := by
  obtain ⟨rest, hid⟩ := h
  rw [CharAt, ← hid]
  cases kind <;> simp [StageKind.stem, stageInitials]

section Distinct

variable {plan : Plan} (hlocated : (plan.located.map Prod.snd).Nodup)
  (hstages : (plan.stages.map (·.id)).Nodup)
  (hinitials : ∀ id ∈ plan.stages.map (·.id), CharAt 0 stageInitials id)

include hlocated hstages hinitials in
/-- The second character tells the kinds of shared fields apart. -/
theorem sharedNames_nodup : (sharedNames plan).Nodup := by
  have hlocations : ((plan.located.map Prod.snd).map
      fun id => "_loc_" ++ id).Nodup :=
    hlocated.map fun a b h => by simpa using h
  have hsources : ((plan.stages.map (·.id)).map
      fun id => "_" ++ id ++ "_source").Nodup :=
    hstages.map fun a b h => by simpa using h
  have hlocation : ∀ name ∈ (plan.located.map Prod.snd).map
      (fun id => "_loc_" ++ id), CharAt 1 ['l'] name := by
    intro name hname
    obtain ⟨id, _, rfl⟩ := List.mem_map.mp hname
    exact ⟨'l', List.mem_cons_self, by simp⟩
  have hsource : ∀ name ∈ (plan.stages.map (·.id)).map
      (fun id => "_" ++ id ++ "_source"), CharAt 1 stageInitials name := by
    intro name hname
    obtain ⟨id, hid, rfl⟩ := List.mem_map.mp hname
    obtain ⟨c, hc, hfirst⟩ := hinitials id hid
    refine ⟨c, hc, ?_⟩
    cases hchars : id.toList with
    | nil => simp [hchars] at hfirst
    | cons d more => simpa [hchars] using hfirst
  have hfirst : ∀ name ∈ ["_program_id", "_references"],
      CharAt 1 ['p', 'r'] name := by
    simp [CharAt]
  have hlast : ∀ name ∈ ["_UNIFORMS", "_LOCATIONS"],
      CharAt 1 ['U', 'L'] name := by
    simp [CharAt]
  simp only [sharedNames, List.append_assoc, List.nodup_append, List.mem_append]
  refine ⟨by decide, ⟨hlocations, ⟨hsources, by decide, ?_⟩, ?_⟩, ?_⟩
  · intro s hs t ht
    exact ne_of_charAt (hsource s hs) (hlast t ht) (by simp [stageInitials])
  · rintro s hs t (ht | ht)
    · exact ne_of_charAt (hlocation s hs) (hsource t ht)
        (by simp [stageInitials])
    · exact ne_of_charAt (hlocation s hs) (hlast t ht) (by simp)
  · rintro s hs t (ht | ht | ht)
    · exact ne_of_charAt (hfirst s hs) (hlocation t ht) (by simp)
    · exact ne_of_charAt (hfirst s hs) (hsource t ht) (by simp [stageInitials])
    · exact ne_of_charAt (hfirst s hs) (hlast t ht) (by simp)

include hlocated in
/-- The fields of a new instance have distinct names. -/
theorem ownFields_nodup :
    ((Binding.ownFields (.initial plan)).map Prod.fst).Nodup := by
  have hids : (plan.uniforms.map (·.id)).Nodup := by
    simp only [located, List.map_append, List.map_map] at hlocated
    exact (List.nodup_append.mp hlocated).1
  have hfields : (plan.uniforms.map fun u => "uniform_" ++ u.id).Nodup := by
    have := hids.map fun a b (h : "uniform_" ++ a = "uniform_" ++ b) =>
      by simpa using h
    simpa [Function.comp_def] using this
  simp only [Binding.ownFields, Binding.Instance.initial, List.map_cons,
    List.map_map, Function.comp_def, List.append_nil]
  refine List.nodup_cons.mpr ⟨fun hmem => ?_, hfields⟩
  obtain ⟨u, _, hname⟩ := List.mem_map.mp hmem
  have := congrArg (fun name => name.toList.head?) hname
  simp at this

include hstages hinitials in
/-- The variables of the method that compiles the program have distinct
names. -/
theorem ownVariables_nodup :
    (Binding.Method.compileShader.ownVariables plan).Nodup := by
  have hhandles : (plan.stages.map fun s => s.id ++ "_shader").Nodup := by
    have := hstages.map fun a b (h : a ++ "_shader" = b ++ "_shader") =>
      by simpa using h
    simpa [Function.comp_def] using this
  refine List.nodup_cons.mpr ⟨fun hmem => ?_, hhandles⟩
  obtain ⟨s, hs, hname⟩ := List.mem_map.mp hmem
  obtain ⟨c, hc, hfirst⟩ := hinitials s.id (List.mem_map_of_mem hs)
  have hvariable :
      CharAt 0 stageInitials (Binding.Method.handleVariable s) := by
    refine ⟨c, hc, ?_⟩
    cases hchars : s.id.toList with
    | nil => simp [hchars] at hfirst
    | cons d more =>
      simpa [Binding.Method.handleVariable, hchars] using hfirst
  have hprogram : CharAt 0 ['p'] "program" := ⟨'p', by simp⟩
  exact ne_of_charAt hvariable hprogram (by simp [stageInitials]) hname

end Distinct

/-! ## Identifiers of plans -/

/-- How the identifiers of a plan come from the names and the kinds in a
specification, and that they are enough to tell apart what the class has. -/
structure Identified (plan : Plan) (spec : Spec) : Prop where
  names : plan.located.map Prod.fst =
    (spec.uniforms ++ spec.attributes).map (·.name)
  derived : DerivedAll []
    ((spec.uniforms ++ spec.attributes).map fun v => identifierOf v.name)
    (plan.located.map Prod.snd)
  plain : ∀ id ∈ plan.located.map Prod.snd, IsPlain id
  nodup : (plan.located.map Prod.snd).Nodup
  stages : plan.stages.map (·.stage) = spec.stages
  stagesDerived : DerivedAll [] (spec.stages.map fun s => s.kind.stem)
    (plan.stages.map (·.id))
  stagesNodup : (plan.stages.map (·.id)).Nodup
  sharedFields : assigned (ModuleText.sharedFields plan) = sharedNames plan ∧
    (sharedNames plan).Nodup
  ownFields : ((Binding.ownFields (.initial plan)).map Prod.fst).Nodup
  locals : (Binding.Method.compileShader.ownVariables plan).Nodup

/-- The identifiers of stages are plain, as their stems are. -/
theorem isPlain_of_stems {stages : List Stage} {ids : List String}
    (h : DerivedAll [] (stages.map fun s => s.kind.stem) ids) :
    ∀ id ∈ ids, IsPlain id := by
  refine h.isPlain fun base hbase => ?_
  obtain ⟨s, _, rfl⟩ := List.mem_map.mp hbase
  exact s.kind.stem_isPlain

theorem Identified.stagesPlain {spec : Spec} {plan : Plan}
    (h : plan.Identified spec) : ∀ s ∈ plan.stages, IsPlain s.id :=
  fun _ hs => isPlain_of_stems h.stagesDerived _ (List.mem_map_of_mem hs)

theorem identified_of_ofSpec {spec : Spec} {plan : Plan}
    (h : ofSpec spec = .ok plan) : plan.Identified spec := by
  have hplaces := places_of_ofSpec h
  obtain ⟨hstages, hstageIds⟩ := stages_of_ofSpec h
  have hderived := uniqueNames_derived []
    ((spec.uniforms ++ spec.attributes).map fun v => identifierOf v.name)
  rw [← located_ids_of_ofSpec h] at hderived
  have hstagesDerived := uniqueNames_derived []
    (spec.stages.map fun s => s.kind.stem)
  have hstagesNodup := uniqueNames_nodup []
    (spec.stages.map fun s => s.kind.stem)
  rw [← hstageIds] at hstagesDerived hstagesNodup
  have hplain : ∀ id ∈ plan.located.map Prod.snd, IsPlain id := by
    refine hderived.isPlain fun base hbase => ?_
    obtain ⟨v, _, rfl⟩ := List.mem_map.mp hbase
    exact identifierOf_isPlain v.name
  have hinitials : ∀ id ∈ plan.stages.map (·.id),
      CharAt 0 stageInitials id := by
    intro id hid
    obtain ⟨base, hbase, hstart⟩ := hstagesDerived.exists_start hid
    obtain ⟨s, _, rfl⟩ := List.mem_map.mp hbase
    exact charAt_of_stem hstart
  exact {
    names := by
      simp [located, Function.comp_def, hplaces.names, hplaces.attributes]
    derived := hderived
    plain := hplain
    nodup := hplaces.ids
    stages := hstages
    stagesDerived := hstagesDerived
    stagesNodup := hstagesNodup
    sharedFields := ⟨assigned_sharedFields hplain
        (isPlain_of_stems hstagesDerived),
      sharedNames_nodup hplaces.ids hstagesNodup hinitials⟩
    ownFields := ownFields_nodup hplaces.ids
    locals := ownVariables_nodup hstagesNodup hinitials }

/-- The identifiers of a plan are derived one after the other, each from its
own name and the identifiers before it. Plans for specifications that start
with the same names have the same identifiers there, and those for
specifications that start with the same kinds of stages have the same
identifiers of stages there. -/
theorem ofSpec_identified {spec : Spec} {plan : Plan}
    (h : ofSpec spec = .ok plan) :
    plan.Identified spec ∧
    ∀ spec' plan' n, ofSpec spec' = .ok plan' →
      (((spec.uniforms ++ spec.attributes).map (·.name)).take n =
          ((spec'.uniforms ++ spec'.attributes).map (·.name)).take n →
        (plan.located.map Prod.snd).take n =
          (plan'.located.map Prod.snd).take n) ∧
      ((spec.stages.map (·.kind)).take n = (spec'.stages.map (·.kind)).take n →
        (plan.stages.map (·.id)).take n =
          (plan'.stages.map (·.id)).take n) := by
  refine ⟨identified_of_ofSpec h, fun spec' plan' n h' => ⟨?_, ?_⟩⟩
  · intro hnames
    rw [located_ids_of_ofSpec h, located_ids_of_ofSpec h', uniqueNames_take,
      uniqueNames_take]
    have hbases := congrArg (List.map identifierOf) hnames
    simp only [List.map_take, List.map_map, Function.comp_def] at hbases
    rw [hbases]
  · intro hkinds
    rw [(stages_of_ofSpec h).2, (stages_of_ofSpec h').2, uniqueNames_take,
      uniqueNames_take]
    have hstems := congrArg (List.map StageKind.stem) hkinds
    simp only [List.map_take, List.map_map, Function.comp_def] at hstems
    rw [hstems]

theorem ofSpec_identified_crowded :
    let first : Stage := ⟨"a.vert", .vertex, ""⟩
    let second : Stage := ⟨"b.vert", .vertex, ""⟩
    let spec : Spec := ⟨{}, [first, second],
      [⟨"a.b", 0x1406⟩, ⟨"a_b", 0x1406⟩, ⟨"a_b_2", 0x1406⟩],
      [⟨"a.b", 0x1406⟩, ⟨"", 0x1406⟩]⟩
    let plan : Plan := ⟨{}, [⟨"a.b", "a_b", .scalar .float, none⟩,
      ⟨"a_b", "a_b_2", .scalar .float, none⟩,
      ⟨"a_b_2", "a_b_2_2", .scalar .float, none⟩],
      [⟨"a.b", "a_b_3"⟩, ⟨"", ""⟩], [⟨first, "vertex"⟩, ⟨second, "vertex_2"⟩]⟩
    let other : Spec :=
      ⟨{}, [first], [⟨"a.b", 0x1404⟩], [⟨"a_b", 0x1406⟩, ⟨"z", 0x1406⟩]⟩
    let otherPlan : Plan := ⟨{}, [⟨"a.b", "a_b", .scalar .int, none⟩],
      [⟨"a_b", "a_b_2"⟩, ⟨"z", "z"⟩], [⟨first, "vertex"⟩]⟩
    ofSpec spec = .ok plan ∧ plan.Identified spec ∧
      ofSpec other = .ok otherPlan ∧
      ((spec.uniforms ++ spec.attributes).map (·.name)).take 2 =
        ((other.uniforms ++ other.attributes).map (·.name)).take 2 ∧
      (plan.located.map Prod.snd).take 2 =
        (otherPlan.located.map Prod.snd).take 2 := by
  intro first second spec plan other otherPlan
  have hspec : ofSpec spec = .ok plan := by rfl
  have hother : ofSpec other = .ok otherPlan := by rfl
  obtain ⟨hidentified, hstart⟩ := ofSpec_identified hspec
  have hnames : ((spec.uniforms ++ spec.attributes).map (·.name)).take 2 =
      ((other.uniforms ++ other.attributes).map (·.name)).take 2 := by rfl
  exact ⟨hspec, hidentified, hother, hnames,
    (hstart other otherPlan 2 hother).1 hnames⟩

end Plan

end ShaderBindings
