import ShaderBindings.ModuleText
import ShaderBindings.Proofs.Listing
import ShaderBindings.Proofs.Plan.Identifiers
import ShaderBindings.Proofs.Text.Literal

/-!
# Generated modules — Legible members

The fields and the methods of a generated class are written in lines that are
lines of the text, whatever the variables are called: names stand in them as
literals, or as identifiers. None of these lines is the one that ends the
documentation of the class.
-/

namespace ShaderBindings

open Text (literal)

/-! ## Texts on one line -/

/-- A text without a line feed. -/
def OneLine (s : String) : Prop :=
  '\n' ∉ s.toList

@[simp] theorem oneLine_append {s t : String} :
    OneLine (s ++ t) ↔ OneLine s ∧ OneLine t := by
  simp [OneLine]

@[simp] theorem oneLine_toString {s : String} :
    OneLine (toString s) ↔ OneLine s :=
  Iff.rfl

@[simp] theorem oneLine_literal (s : String) : OneLine (literal s) :=
  Text.lineFeed_notMem_literal s

@[simp] theorem oneLine_repr (n : Nat) : OneLine n.repr := by
  intro h
  have hdigit : '\n' ∈ Nat.toDigits 10 n := by simpa [Nat.repr] using h
  exact absurd (Nat.isDigit_of_mem_toDigits (by decide) (by decide) hdigit)
    (by decide)

theorem oneLine_ofList (cs : List Char) (h : cs.all (· != '\n') = true) :
    OneLine (.ofList cs) := by
  intro hmem
  rw [String.toList_ofList] at hmem
  simpa using List.all_eq_true.mp h _ hmem

/-- For `simp`, whose discharger knows fixed texts by `oneLine_ofList`. -/
theorem oneLine_eq_true {s : String} (h : OneLine s) : OneLine s = True :=
  eq_true h

theorem IsPlain.oneLine {s : String} (h : IsPlain s) : OneLine s :=
  fun hmem => by cases h _ hmem

/-- A name has no character that neither starts an identifier nor goes on with
one. -/
theorem notMem_of_isName {s : String} {c : Char} (h : Text.isName s = true)
    (hstart : Text.isIdentifierStart c = false)
    (hrest : Text.isIdentifierRest c = false) : c ∉ s.toList := by
  intro hmem
  simp only [Text.isName, Text.isIdentifier, Bool.and_eq_true] at h
  replace h := h.1
  split at h
  · cases h
  · rename_i d rest hchars
    rw [hchars] at hmem
    rw [Bool.and_eq_true] at h
    rcases List.mem_cons.mp hmem with rfl | hmem
    · exact absurd h.1 (by simp [hstart])
    · exact absurd (List.all_eq_true.mp h.2 _ hmem) (by simp [hrest])

theorem oneLine_of_isName {s : String} (h : Text.isName s = true) :
    OneLine s :=
  notMem_of_isName h (by decide) (by decide)

/-- What is put together has no characters but those of the parts and of what
stands between them. -/
theorem mem_intercalate {d : Char} {between : List Char}
    {parts : List (List Char)} (h : d ∈ between.intercalate parts) :
    d ∈ between ∨ ∃ part ∈ parts, d ∈ part := by
  induction parts with
  | nil => simp at h
  | cons part rest ih =>
    cases rest with
    | nil => exact .inr ⟨part, by simp, by simpa using h⟩
    | cons next rest =>
      rw [List.intercalate_cons_cons] at h
      simp only [List.append_assoc, List.mem_append] at h
      rcases h with h | h | h
      · exact .inr ⟨part, by simp, h⟩
      · exact .inl h
      · rcases ih h with h | ⟨part, hpart, h⟩
        · exact .inl h
        · exact .inr ⟨part, List.mem_cons_of_mem _ hpart, h⟩

theorem oneLine_intercalate {between : String} {parts : List String}
    (hbetween : OneLine between) (hparts : ∀ part ∈ parts, OneLine part) :
    OneLine (between.intercalate parts) := by
  intro hmem
  rw [String.toList_intercalate] at hmem
  rcases mem_intercalate hmem with h | ⟨part, hpart, h⟩
  · exact hbetween h
  · obtain ⟨text, htext, rfl⟩ := List.mem_map.mp hpart
    exact hparts text htext h

theorem oneLine_of_isDottedName {s : String}
    (h : Text.isDottedName s = true) : OneLine s := by
  intro hmem
  have hparts : ['.'].intercalate (s.toList.splitOn '.') = s.toList :=
    List.intercalate_splitOn '.'
  rw [← hparts] at hmem
  rcases mem_intercalate hmem with hdot | ⟨part, hpart, hmem⟩
  · exact absurd hdot (by decide)
  · refine oneLine_of_isName (List.all_eq_true.mp h part hpart) ?_
    rwa [String.toList_ofList]

/-! ## Legible items -/

namespace Item

/-- The line that ends the documentation of the class. -/
def docEnd : String := "\"\"\""

/-- A text inside a class is one line, and does not end the documentation. -/
def LegibleText (level : Int) (text : String) : Prop :=
  1 ≤ level ∧ OneLine text ∧ (level = 1 → text ≠ docEnd)

mutual

/-- All that an item writes is legible. -/
def Legible (level : Int) : Item → Prop
  | .line text => LegibleText level text
  | .separate _ => True
  | .suite header body =>
    1 ≤ level ∧ OneLine header ∧ AllLegible (level + 1) body
  | .deeper body => AllLegible (level + 1) body

/-- All that items write is legible. -/
def AllLegible (level : Int) : List Item → Prop
  | [] => True
  | item :: rest => Legible level item ∧ AllLegible level rest

end

section Lists

variable {level : Int} {α : Type}

theorem allLegible_iff {items : List Item} :
    AllLegible level items ↔ ∀ item ∈ items, Legible level item := by
  induction items with
  | nil => simp [AllLegible]
  | cons item rest ih => simp [AllLegible, ih]

@[simp] theorem allLegible_nil : AllLegible level [] :=
  trivial

@[simp] theorem allLegible_append {items more : List Item} :
    AllLegible level (items ++ more) ↔
      AllLegible level items ∧ AllLegible level more := by
  simp [allLegible_iff, or_imp, forall_and]

@[simp] theorem allLegible_map {xs : List α} {f : α → Item} :
    AllLegible level (xs.map f) ↔ ∀ x ∈ xs, Legible level (f x) := by
  simp [allLegible_iff]

@[simp] theorem allLegible_flatMap {xs : List α} {f : α → List Item} :
    AllLegible level (xs.flatMap f) ↔ ∀ x ∈ xs, AllLegible level (f x) := by
  simp only [allLegible_iff, List.mem_flatMap]
  exact ⟨fun h x hx item hitem => h item ⟨x, hx, hitem⟩,
    fun h item ⟨x, hx, hitem⟩ => h x hx item hitem⟩

@[simp] theorem allLegible_ite {c : Prop} [Decidable c]
    {items more : List Item} :
    AllLegible level (if c then items else more) ↔
      (c → AllLegible level items) ∧ (¬ c → AllLegible level more) := by
  split <;> simp [*]

end Lists

@[simp] theorem legible_blank (level : Int) :
    Legible level blank ↔ 1 ≤ level := by
  simp [blank, Legible, LegibleText, OneLine, docEnd]

mutual

theorem Legible.entries {level : Int} {item : Item} (h : Legible level item) :
    ∀ e ∈ entries level item, LegibleText e.1 e.2 := by
  intro e he
  cases item with
  | line text =>
    rw [Item.entries] at he
    split at he
    · cases he
    · rw [List.mem_singleton.mp he]
      exact h
  | separate count => cases he
  | suite header body =>
    rw [Item.entries] at he
    rcases List.mem_cons.mp he with rfl | he
    · refine ⟨h.1, by simpa [OneLine] using h.2.1, fun _ heq => ?_⟩
      simpa [docEnd] using congrArg (·.toList.getLast?) heq
    split at he
    · rw [List.mem_singleton.mp he]
      have := h.1
      exact ⟨by omega, by simp [OneLine], by simp [docEnd]⟩
    · exact AllLegible.entries h.2.2 e he
  | deeper body => exact AllLegible.entries h e he

theorem AllLegible.entries {level : Int} {items : List Item}
    (h : AllLegible level items) :
    ∀ e ∈ entriesAll level items, LegibleText e.1 e.2 := by
  intro e he
  cases items with
  | nil => cases he
  | cons item rest =>
    rw [entriesAll] at he
    rcases List.mem_append.mp he with he | he
    · exact Legible.entries h.1 e he
    · exact AllLegible.entries h.2 e he

end

end Item

/-! ## Legible plans -/

/-- The names that a module makes use of stand on one line, that of the class
has no dot, and those of the stages start like their kinds. -/
structure Plan.Legible (plan : Plan) : Prop where
  className : OneLine plan.options.className
  undotted : '.' ∉ plan.options.className.toList
  package : OneLine plan.options.package
  uniforms : ∀ u ∈ plan.uniforms, IsPlain u.id
  attributes : ∀ a ∈ plan.attributes, IsPlain a.id
  stages : ∀ s ∈ plan.stages, IsPlain s.id
  stems : ∀ s ∈ plan.stages, s.stage.kind.stem.toList <+: s.id.toList

namespace ModuleText

open Item

variable {plan : Plan}

section Types

theorem oneLine_constantName (kind : StageKind) :
    OneLine kind.constantName := by
  cases kind <;> exact oneLine_ofList _ rfl

@[simp] theorem oneLine_dim (n : Dim) : OneLine (toString n) :=
  oneLine_repr n.toNat

theorem oneLine_valueType (t : UniformType) : OneLine t.valueType := by
  cases t with
  | scalar s => cases s <;> exact oneLine_ofList _ rfl
  | vector | matrix | texture => exact oneLine_ofList _ rfl

theorem oneLine_callSuffix (s : Scalar) : OneLine s.callSuffix := by
  cases s <;> exact oneLine_ofList _ rfl

theorem oneLine_arrayElement (s : Scalar) : OneLine s.arrayElement := by
  cases s <;> exact oneLine_ofList _ rfl

theorem oneLine_shapeText (t : UniformType) : OneLine t.shapeText := by
  unfold UniformType.shapeText
  cases t <;>
    simp (disch := exact oneLine_ofList _ rfl) [oneLine_eq_true]

theorem oneLine_firstValue (t : UniformType) : OneLine t.firstValue := by
  unfold UniformType.firstValue
  cases t with
  | scalar s => cases s <;> exact oneLine_ofList _ rfl
  | texture => exact oneLine_ofList _ rfl
  | vector | matrix =>
    simp (disch := exact oneLine_ofList _ rfl)
      [oneLine_shapeText, oneLine_arrayElement, oneLine_eq_true]

theorem oneLine_converterText (t : UniformType) : OneLine t.converterText := by
  unfold UniformType.converterText
  cases t with
  | scalar s => cases s <;> exact oneLine_ofList _ rfl
  | texture => exact oneLine_ofList _ rfl
  | vector | matrix =>
    simp (disch := exact oneLine_ofList _ rfl)
      [oneLine_shapeText, oneLine_arrayElement, oneLine_eq_true]

theorem oneLine_matrixCall (r c : Dim) (e : Precision) :
    OneLine (UniformType.matrixCall r c e) := by
  unfold UniformType.matrixCall
  split <;>
    simp (disch := exact oneLine_ofList _ rfl)
      [oneLine_callSuffix, oneLine_eq_true]

theorem oneLine_boolText (b : Bool) : OneLine (boolText b) := by
  cases b <;> exact oneLine_ofList _ rfl

theorem oneLine_drawText {t : UniformType} {id text : String} (hid : OneLine id)
    (h : t.drawText? id = some text) : OneLine text := by
  unfold UniformType.drawText? at h
  split at h <;> cases h <;>
    simp (disch := exact oneLine_ofList _ rfl)
      [oneLine_callSuffix, oneLine_matrixCall, hid, oneLine_eq_true]

end Types

theorem ne_docEnd_of_mem {c : Char} {text : String} (hmem : c ∈ text.toList)
    (hc : c ≠ '"') : text ≠ docEnd := by
  rintro rfl
  simp [docEnd, hc] at hmem

theorem legible_mapping {name : String} {entries : List (String × String)}
    (hname : OneLine name) (hvalues : ∀ e ∈ entries, OneLine e.2) :
    AllLegible 1 (mapping name entries) := by
  have hempty : name ++ " = \x7b\x7d" ≠ docEnd :=
    ne_docEnd_of_mem (c := '=') (by simp) (by decide)
  have hfirst : name ++ " = \x7b" ≠ docEnd :=
    ne_docEnd_of_mem (c := '=') (by simp) (by decide)
  have hlast : "\x7d" ≠ docEnd :=
    ne_docEnd_of_mem (c := '\x7d') (by simp) (by decide)
  unfold mapping
  split
  · simp (disch := exact oneLine_ofList _ rfl)
      [AllLegible, Legible, LegibleText, hname, oneLine_eq_true, toString,
        hempty]
  · simpa (disch := exact oneLine_ofList _ rfl)
      [AllLegible, Legible, LegibleText, hname, oneLine_eq_true, toString,
        hfirst, hlast] using hvalues

/-! ## Shared fields -/

/-- The line that sets the location of a variable. -/
def locationText (v : String × String) : String :=
  "_loc_" ++ v.2 ++ " = -1"

/-- The line of a stage: its source, or that it has one. -/
def sourceText (reload : Bool) (s : PlannedStage) : String :=
  "_" ++ s.id ++ if reload then "_source: str"
    else "_source = " ++ literal s.stage.text

/-- What finds a uniform by its name. -/
def uniformEntry (u : PlannedUniform) : String × String :=
  (u.name, "runtime.UniformSlot(" ++ literal ("uniform_" ++ u.id) ++ ", " ++
    u.type.converterText ++ ")")

/-- What finds a location by the name of its variable. -/
def locationEntry (v : String × String) : String × String :=
  (v.1, literal ("_loc_" ++ v.2))

theorem sharedFields_eq (plan : Plan) :
    sharedFields plan =
      [ Item.line "_program_id = 0",
        Item.line "_references: runtime.Counter",
        Item.blank ] ++
      plan.located.map (fun v => Item.line (locationText v)) ++ [Item.blank] ++
      plan.stages.map
        (fun s => Item.line (sourceText plan.options.reload s)) ++
      [Item.blank] ++
      mapping "_UNIFORMS" (plan.uniforms.map uniformEntry) ++
      mapping "_LOCATIONS" (plan.located.map locationEntry) ++
      [Item.blank] := by
  have hsources : (plan.stages.map fun s =>
      if plan.options.reload then Item.line s!"_{s.id}_source: str"
      else .line s!"_{s.id}_source = {literal s.stage.text}") =
      plan.stages.map fun s => .line (sourceText plan.options.reload s) := by
    refine List.map_congr_left fun s _ => ?_
    unfold sourceText
    split <;> simp [toString, String.append_assoc]
  rw [sharedFields, hsources]
  rfl

theorem legible_underscore {text : String} (hline : OneLine text)
    (hmem : '_' ∈ text.toList) : Legible 1 (.line text) :=
  ⟨Int.le_refl 1, hline, fun _ => ne_docEnd_of_mem hmem (by decide)⟩

section Methods

variable (h : plan.Legible)

include h in
theorem isPlain_located : ∀ v ∈ plan.located, IsPlain v.2 := by
  intro v hv
  simp only [Plan.located, List.mem_append, List.mem_map] at hv
  rcases hv with ⟨u, hu, rfl⟩ | ⟨a, ha, rfl⟩
  · exact h.uniforms u hu
  · exact h.attributes a ha

include h in
theorem legible_sharedFields : AllLegible 1 (sharedFields plan) := by
  have hlocations : ∀ v ∈ plan.located,
      Legible 1 (.line (locationText v)) := by
    intro v hv
    refine legible_underscore ?_ (by simp [locationText])
    simp (disch := exact oneLine_ofList _ rfl)
      [locationText, (isPlain_located h v hv).oneLine, oneLine_eq_true]
  have hsources : ∀ s ∈ plan.stages,
      Legible 1 (.line (sourceText plan.options.reload s)) := by
    intro s hs
    refine legible_underscore ?_ (by simp [sourceText])
    unfold sourceText
    split <;> simp (disch := exact oneLine_ofList _ rfl)
      [(h.stages s hs).oneLine, oneLine_eq_true]
  have huniforms :
      AllLegible 1 (mapping "_UNIFORMS" (plan.uniforms.map uniformEntry)) := by
    refine legible_mapping (oneLine_ofList _ rfl) fun e he => ?_
    obtain ⟨u, _, rfl⟩ := List.mem_map.mp he
    simp (disch := exact oneLine_ofList _ rfl)
      [uniformEntry, oneLine_converterText, oneLine_eq_true]
  have hplaces : AllLegible 1
      (mapping "_LOCATIONS" (plan.located.map locationEntry)) := by
    refine legible_mapping (oneLine_ofList _ rfl) fun e he => ?_
    obtain ⟨v, _, rfl⟩ := List.mem_map.mp he
    exact oneLine_literal _
  have hprogram : Legible 1 (.line "_program_id = 0") :=
    legible_underscore (oneLine_ofList _ rfl) (by simp)
  have hreferences : Legible 1 (.line "_references: runtime.Counter") :=
    legible_underscore (oneLine_ofList _ rfl) (by simp)
  rw [sharedFields_eq]
  simpa [huniforms, hplaces, hprogram, hreferences, AllLegible] using
    ⟨fun a b => hlocations (a, b), hsources⟩

include h in
theorem legible_instanceFields : AllLegible 1 (instanceFields plan) := by
  simp +contextual (disch := first
      | exact oneLine_ofList _ rfl
      | (apply IsPlain.oneLine; apply h.uniforms; assumption))
    [instanceFields, AllLegible, Legible, LegibleText, oneLine_eq_true,
      oneLine_boolText, oneLine_valueType, oneLine_firstValue]

include h in
theorem legible_loadShaders : AllLegible 1 (loadShaders plan) := by
  simp +contextual (disch := first
      | exact oneLine_ofList _ rfl
      | (apply IsPlain.oneLine; apply h.stages; assumption))
    [loadShaders, AllLegible, Legible, LegibleText, docEnd, oneLine_eq_true,
      h.className, -String.reduceAppend]

include h in
theorem legible_compileShader : AllLegible 1 (compileShader plan) := by
  simp +contextual (disch := first
      | exact oneLine_ofList _ rfl
      | (apply IsPlain.oneLine; apply h.stages; assumption)
      | (apply IsPlain.oneLine; apply h.uniforms; assumption)
      | (apply IsPlain.oneLine; apply h.attributes; assumption))
    [compileShader, compileStage, releaseStage, AllLegible, Legible,
      LegibleText, docEnd, oneLine_constantName, oneLine_eq_true, h.className,
      -String.reduceAppend]

include h in
/-- The methods that say the same of all plans but for the name of the class. -/
theorem legible_fixed : AllLegible 1 (recompile plan ++ compile plan ++
    setParameter plan ++ getParameter plan ++ getParameterLocation plan ++
    getShaderId plan ++ dispose plan ++ support plan ++
    releaseProgram plan) := by
  simp (disch := exact oneLine_ofList _ rfl)
    [recompile, compile, setParameter, getParameter, getParameterLocation,
      lookup, noUniform, getShaderId, dispose, support, releaseProgram,
      AllLegible, Legible, LegibleText, docEnd, oneLine_eq_true, h.className,
      -String.reduceAppend]

theorem legible_passUniform {u : PlannedUniform} (hid : OneLine u.id) :
    AllLegible 2 (passUniform u) := by
  unfold passUniform
  cases u.unit with
  | some unit =>
    simp (disch := exact oneLine_ofList _ rfl)
      [AllLegible, Legible, LegibleText, hid, oneLine_eq_true]
  | none =>
    cases hdraw : u.type.drawText? u.id with
    | none => simp
    | some text =>
      simp [AllLegible, Legible, LegibleText, oneLine_drawText hid hdraw]

include h in
theorem legible_passUniforms : AllLegible 1 (passUniforms plan) := by
  have huniforms : ∀ u ∈ plan.uniforms, AllLegible 2 (passUniform u) :=
    fun u hu => legible_passUniform (h.uniforms u hu).oneLine
  simpa [passUniforms, AllLegible, Legible] using
    ⟨oneLine_ofList _ rfl, huniforms⟩

theorem legible_bindTexture {u : PlannedUniform} (hid : OneLine u.id) :
    AllLegible 2 (bindTexture u) := by
  have hunit : ∀ unit, OneLine (textureUnitText unit) := by
    intro unit
    unfold textureUnitText
    split <;> simp (disch := exact oneLine_ofList _ rfl) [oneLine_eq_true]
  unfold bindTexture
  cases u.unit with
  | none => simp [AllLegible]
  | some unit =>
    simp (disch := exact oneLine_ofList _ rfl)
      [AllLegible, Legible, LegibleText, hid, hunit, oneLine_eq_true]

include h in
theorem legible_useShader : AllLegible 1 (useShader plan) := by
  have htextures : ∀ u ∈ plan.textures, AllLegible 2 (bindTexture u) :=
    fun u hu =>
      legible_bindTexture (h.uniforms u (List.mem_of_mem_filter hu)).oneLine
  simpa +contextual (disch := first
      | exact oneLine_ofList _ rfl
      | (apply IsPlain.oneLine; apply h.attributes; assumption))
    [useShader, AllLegible, Legible, LegibleText, oneLine_eq_true, h.className]
    using htextures

theorem legible_getUniformNames : AllLegible 1 (getUniformNames plan) := by
  have hnames : OneLine (", ".intercalate
      (plan.uniforms.map fun u => literal u.name)) :=
    oneLine_intercalate (oneLine_ofList _ rfl) (by simp)
  have hcomma : OneLine (if plan.uniforms.length == 1 then "," else "") := by
    split <;> exact oneLine_ofList _ rfl
  simpa (disch := exact oneLine_ofList _ rfl)
    [getUniformNames, AllLegible, Legible, LegibleText, oneLine_eq_true,
      hnames] using hcomma

end Methods

end ModuleText

end ShaderBindings
