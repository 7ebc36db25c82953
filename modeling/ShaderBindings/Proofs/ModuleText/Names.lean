import Mathlib.Data.List.TakeWhile
import ShaderBindings.Binding.ClassName
import ShaderBindings.Proofs.ModuleText.Legible

/-!
# Generated modules — Names

The names that the text of a module binds, read off its lines: those that its
heading imports, and in the functions of the class the parameters and the
variables. They are the names that the methods of a binding are known to bind,
and no others, whatever the class and its variables are called.
-/

namespace ShaderBindings.ModuleText

open Text (literal)

variable {plan : Plan} {name : String} {text word : String}

/-! ## Reading names -/

/-- The name that a statement binds, which stands in front of its equals
sign. -/
def targetOf? (text : List Char) : Option String :=
  match text.takeWhile Text.isWordChar, text.dropWhile Text.isWordChar with
  | c :: word, ' ' :: '=' :: ' ' :: _ => some (.ofList (c :: word))
  | _, _ => none

mutual

/-- The names that the statements of an item bind, at any depth. -/
def targetsOf : Item → List String
  | .line text => (targetOf? text.toList).toList
  | .separate _ => []
  | .suite _ body => targets body
  | .deeper body => targets body

/-- The names that statements bind, at any depth. -/
def targets : List Item → List String
  | [] => []
  | item :: rest => targetsOf item ++ targets rest

end

/-- The name at the front of a parameter; none if there is no parameter. -/
def parameterOf? (text : List Char) : Option String :=
  match (text.dropWhile (· == ' ')).takeWhile Text.isWordChar with
  | [] => none
  | word => some (.ofList word)

/-- The names of the parameters in the header of a function. -/
def parametersOf (header : List Char) : List String :=
  let inside := ((header.dropWhile (· != '(')).drop 1).takeWhile (· != ')')
  (inside.splitOn ',').filterMap parameterOf?

/-- The names that functions bind, which are the suites of a class. -/
def locals : List Item → List String
  | [] => []
  | .suite header body :: rest =>
    parametersOf header.toList ++ targets body ++ locals rest
  | _ :: rest => locals rest

/-- The name that an import binds, which is its last word. -/
def importOf? (text : List Char) : Option String :=
  if "import ".toList.isPrefixOf text || "from ".toList.isPrefixOf text then
    (text.splitOn ' ').getLast?.map .ofList
  else none

/-- The names that lines import. -/
def imports : List Item → List String
  | [] => []
  | .line text :: rest => (importOf? text.toList).toList ++ imports rest
  | _ :: rest => imports rest

/-! ## Lists of items -/

@[simp] theorem targets_append (items more : List Item) :
    targets (items ++ more) = targets items ++ targets more := by
  induction items with
  | nil => rfl
  | cons item rest ih => simp [targets, ih]

theorem targets_suite (header : String) (body rest : List Item) :
    targets (.suite header body :: rest) = targets body ++ targets rest :=
  rfl

@[simp] theorem locals_append (items more : List Item) :
    locals (items ++ more) = locals items ++ locals more := by
  induction items with
  | nil => rfl
  | cons item rest ih => cases item <;> simp [locals, ih]

@[simp] theorem imports_append (items more : List Item) :
    imports (items ++ more) = imports items ++ imports more := by
  induction items with
  | nil => rfl
  | cons item rest ih => cases item <;> simp [imports, ih]

@[simp] theorem locals_nil : locals [] = [] :=
  rfl

theorem locals_line (text : String) (rest : List Item) :
    locals (.line text :: rest) = locals rest :=
  rfl

/-- A function binds its parameters and its variables. -/
theorem locals_suite {header : List Char} (parameters : List String)
    (h : parametersOf header = parameters) (body rest : List Item) :
    locals (.suite (.ofList header) body :: rest) =
      parameters ++ targets body ++ locals rest := by
  rw [locals, String.toList_ofList, h]

@[simp] theorem locals_blank (rest : List Item) :
    locals (Item.blank :: rest) = locals rest := by
  simp [locals, Item.blank]

@[simp] theorem targets_flatMap {α : Type} (xs : List α)
    (items : α → List Item) :
    targets (xs.flatMap items) = xs.flatMap fun x => targets (items x) := by
  induction xs with
  | nil => rfl
  | cons x xs ih => simp [ih]

theorem locals_lines {α : Type} (xs : List α) (item : α → Item)
    (h : ∀ x, ∃ text, item x = .line text) : locals (xs.map item) = [] := by
  induction xs with
  | nil => rfl
  | cons x xs ih =>
    obtain ⟨text, hx⟩ := h x
    simpa [locals, hx] using ih

/-! ## Fronts of lines -/

/-- The text starts with these characters. -/
def Starts (cs : List Char) (text : String) : Prop :=
  cs <+: text.toList

theorem starts_ofList {cs text : List Char} (h : cs.isPrefixOf text = true) :
    Starts cs (.ofList text) := by
  rwa [Starts, String.toList_ofList, ← List.isPrefixOf_iff_prefix]

@[simp] theorem starts_append {cs : List Char} {s : String} (h : Starts cs s)
    (t : String) : Starts cs (s ++ t) := by
  rw [Starts, String.toList_append]
  exact h.trans (List.prefix_append _ _)

@[simp] theorem starts_toList_append {cs : List Char} {s t : String} :
    Starts (s.toList ++ cs) (s ++ t) ↔ Starts cs t := by
  simp [Starts]

/-! ## Lines that bind names, and others -/

/-- The line binds no name. -/
def Unbinding (text : String) : Prop :=
  targetOf? text.toList = none

theorem unbinding_ofList {text : List Char} (h : targetOf? text = none) :
    Unbinding (.ofList text) := by
  rwa [Unbinding, String.toList_ofList]

theorem targets_unbinding (h : Unbinding text) (rest : List Item) :
    targets (.line text :: rest) = targets rest := by
  have h : targetOf? text.toList = none := h
  simp [targets, targetsOf, h]

theorem targets_blank (rest : List Item) :
    targets (Item.blank :: rest) = targets rest :=
  targets_unbinding (unbinding_ofList rfl) rest

theorem targets_lines {α : Type} (xs : List α) (text : α → String)
    (h : ∀ x, Unbinding (text x)) :
    targets (xs.map fun x => .line (text x)) = [] := by
  induction xs with
  | nil => rfl
  | cons x xs ih => rw [List.map_cons, targets_unbinding (h x), ih]

/-- A line binds the word that stands in front of its equals sign. -/
theorem targets_binding (word : String) (hword : IsPlain word)
    (hne : word ≠ "") (htext : Starts (word.toList ++ [' ', '=', ' ']) text)
    (rest : List Item) :
    targets (.line text :: rest) = word :: targets rest := by
  obtain ⟨value, htext⟩ := htext
  have htake : text.toList.takeWhile Text.isWordChar = word.toList := by
    rw [← htext, List.append_assoc, List.takeWhile_append_of_pos hword]
    simp [Text.isWordChar]
  have hdrop : text.toList.dropWhile Text.isWordChar =
      ' ' :: '=' :: ' ' :: value := by
    rw [← htext, List.append_assoc, List.dropWhile_append_of_pos hword]
    simp [Text.isWordChar]
  have htarget : targetOf? text.toList = some word := by
    cases hchars : word.toList with
    | nil => exact absurd (String.toList_eq_nil_iff.mp hchars) hne
    | cons c others =>
      rw [targetOf?, htake, hdrop, hchars]
      show some (String.ofList (c :: others)) = some word
      rw [← hchars, String.ofList_toList]
  simp [targets, targetsOf, htarget]

theorem unbinding_of_dropWhile
    (h : ∀ more, text.toList.dropWhile Text.isWordChar ≠ ' ' :: '=' :: more) :
    Unbinding text := by
  unfold Unbinding targetOf?
  split
  next more _ hmore => exact absurd hmore (h _)
  next => rfl

/-- Nothing is bound by a line in which there is something else before the first
blank. -/
theorem unbinding_of_notMem (before : List Char) {c : Char}
    (htext : Starts (before ++ [c]) text) (hbefore : ' ' ∉ before)
    (hc : Text.isWordChar c = false) (hblank : c ≠ ' ') : Unbinding text := by
  obtain ⟨rest, htext⟩ := htext
  refine unbinding_of_dropWhile fun more hmore => ?_
  rw [← htext, List.append_assoc, List.singleton_append] at hmore
  clear htext
  induction before with
  | nil =>
    rw [List.nil_append, List.dropWhile_cons_of_neg (by simp [hc])] at hmore
    exact hblank (List.cons.inj hmore).1
  | cons d before ih =>
    rw [List.mem_cons, not_or] at hbefore
    by_cases hd : Text.isWordChar d = true
    · rw [List.cons_append, List.dropWhile_cons_of_pos hd] at hmore
      exact ih hbefore.2 hmore
    · rw [List.cons_append, List.dropWhile_cons_of_neg hd] at hmore
      exact hbefore.1 (List.cons.inj hmore).1.symm

/-- Nor by a line whose first word is followed by another. -/
theorem unbinding_of_word (word : String) {c : Char} (hword : IsPlain word)
    (htext : Starts (word.toList ++ [' ', c]) text) (hc : c ≠ '=') :
    Unbinding text := by
  obtain ⟨rest, htext⟩ := htext
  refine unbinding_of_dropWhile fun more hmore => ?_
  rw [← htext, List.append_assoc, List.dropWhile_append_of_pos hword] at hmore
  simp only [List.cons_append, List.nil_append] at hmore
  rw [List.dropWhile_cons_of_neg (by decide)] at hmore
  exact hc (List.cons.inj (List.cons.inj hmore).2).1

/-- To set a field or to call a method binds no name. -/
theorem unbinding_of_field (hname : ' ' ∉ name.toList)
    (htext : Starts (name.toList ++ ['.']) text) : Unbinding text :=
  unbinding_of_notMem _ htext hname (by decide) (by decide)

theorem unbinding_of_gl (htext : Starts ['G', 'L', '.'] text) :
    Unbinding text :=
  unbinding_of_notMem ['G', 'L'] htext (by decide) (by decide)
    (by decide)

theorem unbinding_of_quote (htext : Starts ['"'] text) : Unbinding text :=
  unbinding_of_notMem [] htext List.not_mem_nil (by decide)
    (by decide)

theorem unbinding_return {rest : String} (hname : '=' ∉ name.toList)
    (hrest : Starts ['.'] rest) :
    Unbinding ("return " ++ name ++ rest) := by
  obtain ⟨more, hrest⟩ := hrest
  cases hchars : name.toList with
  | nil =>
    refine unbinding_of_word "return" (c := '.') (by decide)
      ⟨more, ?_⟩ (by decide)
    simp [← hrest, hchars]
  | cons c others =>
    refine unbinding_of_word "return" (c := c) (by decide)
      ⟨others ++ '.' :: more, ?_⟩ fun hc => hname (by simp [hchars, hc])
    simp [← hrest, hchars]

/-! ## Statements of the functions -/

theorem targets_compileStage {s : PlannedStage} (hid : IsPlain s.id)
    (name : String) :
    targets (compileStage name s) = [Binding.Method.handleVariable s] := by
  have hplain : IsPlain (s.id ++ "_shader") := hid.append (by decide)
  have hgl {text : String} (h : Starts ['G', 'L', '.'] text)
      (rest : List Item) : targets (.line text :: rest) = targets rest :=
    targets_unbinding (unbinding_of_gl h) rest
  rw [compileStage, targets_binding _ hplain (by simp)]
  · rw [hgl, hgl, hgl]
    · rfl
    all_goals
      simp (disch := exact starts_ofList rfl) [toString, String.append_assoc]
  · simp (disch := exact starts_ofList rfl) [toString, String.append_assoc]

theorem targets_releaseStage (s : PlannedStage) :
    targets (releaseStage s) = [] := by
  rw [releaseStage, targets_unbinding, targets_unbinding]
  · rfl
  all_goals
    refine unbinding_of_gl ?_
    simp (disch := exact starts_ofList rfl) [toString, String.append_assoc]

/-- A look-up binds the name that its statement binds. -/
theorem targets_lookup (word : String) {statement message : String}
    (hword : IsPlain word) (hne : word ≠ "")
    (htext : Starts (word.toList ++ [' ', '=', ' ']) statement) :
    targets (lookup statement message) = [word] := by
  have hmessage : Unbinding s!"    {message}" :=
    unbinding_of_dropWhile (by simp [toString, Text.isWordChar])
  have hraise : targets [.line "raise runtime.InvalidIdentifierError(",
      .line s!"    {message}", .line ") from None"] = [] := by
    rw [targets_unbinding (unbinding_ofList rfl), targets_unbinding hmessage,
      targets_unbinding (unbinding_ofList rfl)]
    rfl
  rw [lookup, targets_suite, targets_suite,
    targets_binding word hword hne htext, hraise]
  rfl

theorem targets_bindTexture (u : PlannedUniform) :
    targets (bindTexture u) = [] := by
  unfold bindTexture
  split
  next => rfl
  next =>
    rw [targets_unbinding, targets_unbinding]
    · rfl
    all_goals
      refine unbinding_of_gl ?_
      simp (disch := exact starts_ofList rfl) [toString, String.append_assoc]

/-- Whatever is passed to the program is passed by one call. -/
theorem starts_drawText {t : UniformType} {id : String}
    (h : t.drawText? id = some text) : Starts ['G', 'L', '.'] text := by
  unfold UniformType.drawText? at h
  split at h <;> cases h <;>
    simp (disch := exact starts_ofList rfl) [toString, String.append_assoc]

theorem targets_passUniform (u : PlannedUniform) :
    targets (passUniform u) = [] := by
  unfold passUniform
  split
  next =>
    refine targets_unbinding (unbinding_of_gl ?_) []
    simp (disch := exact starts_ofList rfl) [toString, String.append_assoc]
  next =>
    cases htext : u.type.drawText? u.id with
    | none => rfl
    | some text =>
      exact targets_unbinding (unbinding_of_gl (starts_drawText htext)) []

/-! ## The functions of a class -/

/-- What the name of a class must not hold for its lines to be read. -/
structure OneWord (name : String) : Prop where
  blank : ' ' ∉ name.toList
  equals : '=' ∉ name.toList

section Functions

variable (hname : OneWord plan.options.className)
include hname

theorem locals_loadShaders : locals (loadShaders plan) = [] := by
  have hstages := targets_lines plan.stages
    (fun s => s!"{plan.options.className}._{s.id}_source = " ++
      s!"Path({literal s.stage.path}).read_text()") fun s => by
      refine unbinding_of_field hname.blank ?_
      simp (disch := exact starts_ofList rfl) [toString, String.append_assoc]
  rw [loadShaders, locals_line, locals_suite [] rfl,
    targets_unbinding (unbinding_of_quote ?_), hstages]
  · rfl
  · exact starts_append (starts_ofList rfl) _

/-- Compiling binds a variable for the program and one for each stage. -/
theorem locals_compileShader (hstages : ∀ s ∈ plan.stages, IsPlain s.id) :
    locals (compileShader plan) =
      "program" :: plan.stages.map Binding.Method.handleVariable := by
  have hload : targets (if plan.options.reload then
      [Item.line s!"{plan.options.className}._load_shaders()"] else []) =
        [] := by
    split
    · exact targets_unbinding (unbinding_of_field hname.blank
        (starts_toList_append.mpr (starts_ofList rfl))) []
    · rfl
  have hcompile : targets (plan.stages.flatMap
      (compileStage plan.options.className)) =
        plan.stages.map Binding.Method.handleVariable := by
    rw [targets_flatMap, List.flatMap_congr fun s hs =>
      targets_compileStage (hstages s hs) _]
    exact List.flatMap_pure_eq_map _ _
  have hrelease : targets (plan.stages.flatMap releaseStage) = [] := by
    simp [targets_releaseStage]
  have hlink (message : String) : targets [.line "GL.glLinkProgram(program)",
      .line (s!"logger.debug({message}, " ++
        "runtime.as_text(GL.glGetProgramInfoLog(program)))")] = [] := by
    rw [targets_unbinding (unbinding_ofList rfl), targets_unbinding]
    · rfl
    · refine unbinding_of_notMem "logger".toList (c := '.') ?_ (by decide)
        (by decide) (by decide)
      simp (disch := exact starts_ofList rfl) [toString, String.append_assoc]
  have hstore : targets [.line
      s!"{plan.options.className}._program_id = program"] = [] :=
    targets_unbinding (unbinding_of_field hname.blank
      (starts_toList_append.mpr (starts_ofList rfl))) []
  have huniforms := targets_lines plan.uniforms
    (fun u => s!"{plan.options.className}._loc_{u.id} = " ++
      s!"GL.glGetUniformLocation(program, {literal u.name})") fun u => by
      refine unbinding_of_field hname.blank ?_
      simp (disch := exact starts_ofList rfl) [toString, String.append_assoc]
  have hattributes := targets_lines plan.attributes
    (fun a => s!"{plan.options.className}._loc_{a.id} = " ++
      s!"GL.glGetAttribLocation(program, {literal a.name})") fun a => by
      refine unbinding_of_field hname.blank ?_
      simp (disch := exact starts_ofList rfl) [toString, String.append_assoc]
  have hdoc : targets [.line
      ("\"\"\"Compile and link the shared program, then " ++
        "resolve locations.\"\"\"")] = [] :=
    targets_unbinding
      (unbinding_of_quote (starts_append (starts_ofList rfl) _)) []
  have hprogram : targets [.line "program = GL.glCreateProgram()"] =
      ["program"] :=
    targets_binding "program" (by decide) (by decide)
      (starts_ofList rfl) []
  rw [compileShader, locals_line, locals_suite [] rfl]
  simp only [targets_append, hdoc, hload, hprogram, hcompile, hlink, hrelease,
    hstore, huniforms, hattributes, locals_blank, locals_nil, List.append_nil,
    List.nil_append]
  rfl

theorem locals_recompile : locals (recompile plan) = ["self"] := by
  have hdelete : Unbinding
      s!"GL.glDeleteProgram({plan.options.className}._program_id)" := by
    refine unbinding_of_gl ?_
    simp (disch := exact starts_ofList rfl) [toString, String.append_assoc]
  have hforget : Unbinding s!"{plan.options.className}._program_id = 0" :=
    unbinding_of_field hname.blank
      (starts_toList_append.mpr (starts_ofList rfl))
  rw [recompile, locals_suite ["self"] rfl,
    targets_unbinding (unbinding_ofList rfl), targets_blank]
  iterate 4 rw [targets_unbinding (unbinding_ofList rfl)]
  rw [targets_unbinding hdelete, targets_unbinding hforget,
    targets_unbinding (unbinding_ofList rfl)]
  rfl

theorem locals_compile : locals (compile plan) = ["self"] := by
  rw [compile, locals_suite ["self"] rfl, targets_suite,
    targets_unbinding, targets_unbinding]
  · rfl
  all_goals
    exact unbinding_of_field hname.blank
      (starts_toList_append.mpr (starts_ofList rfl))

theorem locals_dispose : locals (dispose plan) = ["self"] := by
  rw [dispose, locals_suite ["self"] rfl, targets_unbinding]
  · rfl
  · exact unbinding_of_field hname.blank
      (starts_toList_append.mpr (starts_ofList rfl))

theorem locals_releaseProgram : locals (releaseProgram plan) = [] := by
  rw [releaseProgram, locals_line, locals_suite [] rfl,
    targets_unbinding, targets_unbinding]
  · rfl
  · exact unbinding_of_field hname.blank
      (starts_toList_append.mpr (starts_ofList rfl))
  · refine unbinding_of_gl ?_
    simp (disch := exact starts_ofList rfl) [toString, String.append_assoc]

theorem locals_getShaderId : locals (getShaderId plan) = ["self"] := by
  have hraise (message : String) :
      Unbinding s!"raise runtime.ShaderNotInitializedError({message})" := by
    refine unbinding_of_word "raise" (c := 'r') (by decide) ?_
      (by decide)
    simp (disch := exact starts_ofList rfl) [toString, String.append_assoc]
  have hreturn : Unbinding s!"return {plan.options.className}._program_id" :=
    unbinding_return hname.equals (starts_ofList rfl)
  rw [getShaderId, locals_suite ["self"] rfl, targets_suite,
    targets_unbinding (hraise _), targets_unbinding hreturn]
  rfl

theorem locals_support : locals (support plan) = ["self"] := by
  have hreturn : Unbinding
      s!"return {plan.options.className}.implementation_supports_shaders()" :=
    unbinding_return hname.equals (starts_ofList rfl)
  rw [support, locals_line, locals_suite ["self"] rfl,
    targets_unbinding hreturn, locals_blank, locals_line,
    locals_suite [] rfl,
    targets_unbinding (unbinding_ofList rfl)]
  rfl

end Functions

theorem locals_setParameter :
    locals (setParameter plan) = ["self", "name", "value", "slot"] := by
  rw [setParameter,
    locals_suite ["self", "name", "value"] rfl, targets_append,
    targets_lookup "slot" (by decide) (by decide),
    targets_unbinding (unbinding_ofList rfl)]
  · rfl
  · simp (disch := exact starts_ofList rfl) [toString, String.append_assoc]

theorem locals_getParameter :
    locals (getParameter plan) =
      ["self", "name", "expected_type", "slot"] := by
  have hheader : parametersOf ("def get_parameter(self, name: str, " ++
      "expected_type: type | None = None) -> object").toList =
        ["self", "name", "expected_type"] := by
    rw [String.toList_append, String.toList_ofList, String.toList_ofList]
    rfl
  have hreturn :
      Unbinding "return slot.load(self, name, expected_type)" :=
    unbinding_ofList rfl
  rw [getParameter, locals, hheader, targets_append,
    targets_lookup "slot" (by decide) (by decide),
    targets_unbinding hreturn]
  · rfl
  · simp (disch := exact starts_ofList rfl) [toString, String.append_assoc]

theorem locals_getParameterLocation :
    locals (getParameterLocation plan) = ["self", "name", "field"] := by
  have hreturn :
      Unbinding s!"return getattr({plan.options.className}, field)" := by
    refine unbinding_of_word "return" (c := 'g') (by decide) ?_
      (by decide)
    simp (disch := exact starts_ofList rfl) [toString, String.append_assoc]
  rw [getParameterLocation, locals_suite ["self", "name"] rfl,
    targets_append, targets_lookup "field" (by decide) (by decide),
    targets_unbinding hreturn]
  · rfl
  · simp (disch := exact starts_ofList rfl) [toString, String.append_assoc]

theorem locals_useShader : locals (useShader plan) = ["self"] := by
  have hprogram : Unbinding
      s!"GL.glUseProgram({plan.options.className}._program_id)" := by
    refine unbinding_of_gl ?_
    simp (disch := exact starts_ofList rfl) [toString, String.append_assoc]
  have htextures : targets (plan.textures.flatMap bindTexture) = [] := by
    simp [targets_bindTexture]
  have hattributes := targets_lines plan.attributes
    (fun a => s!"GL.glEnableVertexAttribArray(self._loc_{a.id})")
    fun a => by
      refine unbinding_of_gl ?_
      simp (disch := exact starts_ofList rfl) [toString, String.append_assoc]
  rw [useShader, locals_suite ["self"] rfl, targets_append,
    List.cons_append, targets_unbinding hprogram, htextures, hattributes]
  rfl

theorem locals_passUniforms : locals (passUniforms plan) = ["self"] := by
  rw [passUniforms, locals_suite ["self"] rfl, targets_flatMap]
  simp [targets_passUniform]

theorem locals_getUniformNames :
    locals (getUniformNames plan) = ["self"] := by
  have hyield (names comma : String) :
      Unbinding s!"yield from ({names}{comma})" := by
    refine unbinding_of_word "yield" (c := 'f') (by decide) ?_
      (by decide)
    simp (disch := exact starts_ofList rfl) [toString, String.append_assoc]
  rw [getUniformNames, locals_suite ["self"] rfl,
    targets_unbinding (hyield _ _)]
  rfl

theorem locals_instanceFields : locals (instanceFields plan) = ["self"] := by
  have hself {text : String} (h : Starts ['s', 'e', 'l', 'f', '.'] text) :
      Unbinding text :=
    unbinding_of_notMem ['s', 'e', 'l', 'f'] h (by decide)
      (by decide) (by decide)
  have huniforms := targets_lines plan.uniforms
    (fun u => s!"self.uniform_{u.id}: {u.type.valueType} = " ++
      u.type.firstValue) fun u => hself (by
        simp (disch := exact starts_ofList rfl) [toString, String.append_assoc])
  have htranspose (value : String) :
      Unbinding s!"self.transpose_matrix = {value}" :=
    hself (starts_append (starts_ofList rfl) _)
  rw [instanceFields, locals_suite ["self"] rfl,
    targets_unbinding (htranspose _), huniforms]
  rfl

theorem locals_classDoc : locals (classDoc plan) = [] := by
  have hstages := locals_lines plan.stages _ fun s =>
    ⟨s!"    {s.id}: {s.stage.kind.constantName}", rfl⟩
  have huniforms := locals_lines plan.uniforms _ fun u =>
    ⟨s!"    {u.name}: {u.type.spelling}", rfl⟩
  have hattributes := locals_lines plan.attributes _ fun a =>
    ⟨s!"    {a.name}", rfl⟩
  have htitle {p : Bool} (text : String) :
      locals (if p then [] else [.line text]) = [] := by
    cases p <;> rfl
  simp only [classDoc, locals_append, hstages, huniforms, hattributes, htitle,
    locals_line, locals_blank, locals_nil, List.append_nil]

theorem locals_mapping (name : String) (entries : List (String × String)) :
    locals (mapping name entries) = [] := by
  unfold mapping
  split <;> rfl

theorem locals_sharedFields : locals (sharedFields plan) = [] := by
  have hlocations := locals_lines plan.located _ fun v =>
    ⟨s!"_loc_{v.2} = -1", rfl⟩
  have hsources := locals_lines plan.stages (fun s =>
    if plan.options.reload then Item.line s!"_{s.id}_source: str"
    else .line s!"_{s.id}_source = {literal s.stage.text}") fun s => by
      cases plan.options.reload
      · exact ⟨_, rfl⟩
      · exact ⟨_, rfl⟩
  simp only [sharedFields, locals_append, hlocations, hsources, locals_mapping,
    locals_line, locals_blank, locals_nil, List.append_nil]

/-! ## The whole class -/

/-- How a method is written in the class. -/
def methodItems (plan : Plan) : Binding.Method → List Item
  | .compileShader => compileShader plan
  | .releaseProgram => releaseProgram plan
  | .compile => compile plan
  | .recompile => recompile plan
  | .dispose => dispose plan
  | .setParameter => setParameter plan
  | .getParameter => getParameter plan
  | .getLocation => getParameterLocation plan
  | .useShader => useShader plan
  | .shaderId => getShaderId plan
  | .support => support plan

/-- The names that every class binds, whatever its stages. -/
def boundNames : List String :=
  ["self", "name", "value", "expected_type", "slot", "field", "program"]

section Class

variable (hname : OneWord plan.options.className)
variable (hstages : ∀ s ∈ plan.stages, IsPlain s.id)
include hname hstages

/-- The names that a method is written to bind are those of its parameters and
its variables. -/
theorem locals_methodItems (m : Binding.Method) :
    locals (methodItems plan m) = m.parameters ++ m.ownVariables plan := by
  cases m with
  | compileShader => exact locals_compileShader hname hstages
  | releaseProgram => exact locals_releaseProgram hname
  | compile => exact locals_compile hname
  | recompile => exact locals_recompile hname
  | dispose => exact locals_dispose hname
  | setParameter => exact locals_setParameter
  | getParameter => exact locals_getParameter
  | getLocation => exact locals_getParameterLocation
  | useShader => exact locals_useShader
  | shaderId => exact locals_getShaderId hname
  | support => exact locals_support hname

/-- All names that the functions of a class bind, some of them many times. -/
theorem locals_classBody : locals (classBody plan) =
    ["self", "program"] ++ plan.stages.map Binding.Method.handleVariable ++
    ["self", "self", "self", "name", "value", "slot", "self", "name",
      "expected_type", "slot", "self", "name", "field", "self", "self", "self",
      "self", "self", "self"] := by
  have hload : locals (if plan.options.reload then loadShaders plan else []) =
      [] := by
    split
    · exact locals_loadShaders hname
    · rfl
  simp only [classBody, locals_append, locals_classDoc, locals_sharedFields,
    locals_instanceFields, hload, locals_compileShader hname hstages,
    locals_recompile hname, locals_compile hname, locals_setParameter,
    locals_getParameter, locals_getParameterLocation, locals_passUniforms,
    locals_useShader, locals_getShaderId hname, locals_dispose hname,
    locals_support hname, locals_getUniformNames, locals_releaseProgram hname,
    List.append_assoc, List.nil_append, List.append_nil, List.cons_append]

/-- The names that the functions of a class bind. -/
theorem mem_locals_classBody : name ∈ locals (classBody plan) ↔
    name ∈ boundNames ∨
      name ∈ plan.stages.map Binding.Method.handleVariable := by
  have hfixed (fixed : List String) (handles rest : List String) :
      name ∈ fixed ++ handles ++ rest ↔
        name ∈ fixed ++ rest ∨ name ∈ handles := by
    simp only [List.mem_append, or_right_comm]
  rw [locals_classBody hname hstages, hfixed]
  clear hfixed
  refine or_congr_left ⟨?_, ?_⟩
  · revert name
    decide
  · revert name
    decide

end Class

/-! ## The imports -/

theorem imports_other {c : Char} (htext : Starts [c] text) (hc : c ≠ 'i')
    (hc' : c ≠ 'f') (rest : List Item) :
    imports (.line text :: rest) = imports rest := by
  obtain ⟨more, htext⟩ := htext
  simp [imports, importOf?, ← htext, hc.symm, hc'.symm, List.isPrefixOf]

theorem imports_import {line : List Char} (word : String)
    (h : importOf? line = some word)
    (rest : List Item) :
    imports (.line (.ofList line) :: rest) = word :: imports rest := by
  rw [imports, String.toList_ofList, h]
  rfl

theorem imports_blank (rest : List Item) :
    imports (Item.blank :: rest) = imports rest :=
  rfl

/-- The names that a module imports. -/
theorem imports_heading (version : String) (plan : Plan) :
    imports (heading version plan) =
      "Iterator" :: (if plan.options.reload then ["Path"] else []) ++
      (if plan.usesArrays then ["np"] else []) ++
      ["logger", "runtime", "GL"] := by
  have hnotice : imports [.line "# <auto-generated>",
      .line s!"#     This code was generated by {toolName} {version}.",
      .line "#",
      .line ("#     Changes to this file may cause incorrect behavior and " ++
        "will be lost if"),
      .line "#     the code is regenerated.",
      .line "# </auto-generated>",
      .line s!"\"\"\"OpenGL shader wrapper {qualifiedName plan.options}.\"\"\"",
      .blank,
      .line "from collections.abc import Iterator"] = ["Iterator"] := by
    have hcomment {text : String} (h : Starts ['#'] text) (rest : List Item) :
        imports (.line text :: rest) = imports rest :=
      imports_other h (by decide) (by decide) rest
    rw [hcomment (starts_ofList rfl), hcomment, hcomment (starts_ofList rfl),
      hcomment (starts_append (starts_ofList rfl) _),
      hcomment (starts_ofList rfl), hcomment (starts_ofList rfl),
      imports_other (c := '"') _ (by decide) (by decide), imports_blank,
      imports_import "Iterator" rfl]
    · rfl
    all_goals
      simp (disch := exact starts_ofList rfl) [toString, String.append_assoc]
  have hpath : imports (if plan.options.reload then
      [Item.line "from pathlib import Path"] else []) =
        if plan.options.reload then ["Path"] else [] := by
    split
    · exact imports_import _ rfl []
    · rfl
  have harrays : imports (if plan.usesArrays then
      [Item.line "import numpy as np"] else []) =
        if plan.usesArrays then ["np"] else [] := by
    split
    · exact imports_import _ rfl []
    · rfl
  have hrest : imports [.line "from loguru import logger", .blank,
      .line "from glslwrap import runtime",
      .line "from glslwrap.runtime import gl as GL", .blank,
      .line s!"__all__ = [{literal plan.options.className}]"] =
        ["logger", "runtime", "GL"] := by
    rw [imports_import "logger" rfl, imports_blank,
      imports_import "runtime" rfl,
      imports_import "GL" rfl, imports_blank,
      imports_other (c := '_') _ (by decide) (by decide)]
    · rfl
    · simp (disch := exact starts_ofList rfl) [toString, String.append_assoc]
  simp only [heading, imports_append, hnotice, hpath, harrays, hrest,
    imports_blank]
  simp [imports]

end ShaderBindings.ModuleText
