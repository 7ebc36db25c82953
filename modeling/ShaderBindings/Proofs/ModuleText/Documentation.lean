import ShaderBindings.Proofs.ModuleText.Decoding

/-!
# Generated modules — What the documentation tells

The title of a module names its class and its package. The documentation of the
class has the type of each uniform at the end of a line, which can be read if
the names of the variables are known.
-/

namespace ShaderBindings

/-! ## Types as they are spelled -/

namespace UniformType

theorem mem_all (t : UniformType) : t ∈ all := by
  cases t with
  | scalar s => cases s <;> decide
  | vector n e => cases n <;> cases e <;> decide
  | matrix r c e => cases r <;> cases c <;> cases e <;> decide
  | texture => decide

/-- No two types are spelled alike. -/
theorem spelling_inj {t t' : UniformType} (h : t.spelling = t'.spelling) :
    t = t' := by
  have key : ∀ t ∈ all, ∀ t' ∈ all, t.spelling = t'.spelling → t = t' := by
    decide +kernel
  exact key t (mem_all t) t' (mem_all t') h

theorem spelling_oneLine (t : UniformType) :
    OneLine t.spelling ∧ t.spelling ≠ "" := by
  have key : ∀ t ∈ all,
      t.spelling.toList.contains '\n' = false ∧ t.spelling ≠ "" := by
    decide +kernel
  obtain ⟨hline, hne⟩ := key t (mem_all t)
  exact ⟨by simpa [OneLine] using hline, hne⟩

end UniformType

namespace ModuleText

open Text (fullLines)
open Item
open Listing (row)

variable {plan p q : Plan}

/-! ## The title -/

/-- The line that says which class a module is for. -/
def titleText (o : Options) : String :=
  s!"\"\"\"OpenGL shader wrapper {qualifiedName o}.\"\"\""

/-- The notice of a module is the same for all plans, and the title follows. -/
theorem rowsAbove_eq (version : String) : ∃ notice : List String,
    ∀ plan, ∃ rest, rowsAbove version plan =
      notice ++ row (0, titleText plan.options) :: rest := by
  have hversion :
      s!"#     This code was generated by {toolName} {version}." ≠ "" := by
    simp [toString]
  have htitle : ∀ o : Options,
      s!"\"\"\"OpenGL shader wrapper {qualifiedName o}.\"\"\"" ≠ "" := by
    simp [toString]
  refine ⟨["# <auto-generated>",
    s!"#     This code was generated by {toolName} {version}.", "#",
    "#     Changes to this file may cause incorrect behavior and " ++
      "will be lost if",
    "#     the code is regenerated.", "# </auto-generated>"].map
      fun text => row (0, text), fun plan => ?_⟩
  unfold rowsAbove heading
  simp only [entriesAll_append]
  rw [entriesAll_line (by simp), entriesAll_line hversion,
    entriesAll_line (by simp), entriesAll_line (by simp),
    entriesAll_line (by simp), entriesAll_line (by simp),
    entriesAll_line (htitle plan.options)]
  exact ⟨_, rfl⟩

theorem fullLines_title (h : plan.Legible) :
    fullLines (row (0, titleText plan.options)).toList =
      [(titleText plan.options).toList] := by
  have hline : OneLine (titleText plan.options) := by
    unfold titleText qualifiedName
    simp (disch := exact oneLine_ofList _ rfl)
      [h.className, h.package, oneLine_eq_true]
  have hne : titleText plan.options ≠ "" := by
    unfold titleText
    simp [toString]
  have hrow : row (0, titleText plan.options) = titleText plan.options := by
    simp [row]
  rw [hrow, Text.fullLines_of_notMem hline (by simpa using hne)]

/-- The title tells the name of the class, which has no dot, and its package. -/
theorem names_of_rowsAbove {version : String} (hp : p.Legible) (hq : q.Legible)
    (h : (rowsAbove version p).flatMap (fullLines ·.toList) =
      (rowsAbove version q).flatMap (fullLines ·.toList)) :
    p.options.package = q.options.package ∧
    p.options.className = q.options.className := by
  obtain ⟨notice, hrows⟩ := rowsAbove_eq version
  obtain ⟨rest, hrowsp⟩ := hrows p
  obtain ⟨rest', hrowsq⟩ := hrows q
  rw [hrowsp, hrowsq, List.flatMap_append, List.flatMap_append,
    List.append_cancel_left_eq, List.flatMap_cons, List.flatMap_cons,
    fullLines_title hp, fullLines_title hq, List.singleton_append,
    List.singleton_append, List.cons.injEq] at h
  have htitle : ∀ o : Options, (titleText o).toList =
      "\"\"\"OpenGL shader wrapper ".toList ++
        ((o.package.toList ++ '.' :: o.className.toList) ++
          ".\"\"\"".toList) := by
    intro o
    unfold titleText qualifiedName
    simp [toString]
  rw [htitle, htitle, List.append_cancel_left_eq,
    List.append_cancel_right_eq] at h
  obtain ⟨hpackage, hclass⟩ := append_cons_inj h.1 hp.undotted hq.undotted
  exact ⟨String.toList_inj.mp hpackage, String.toList_inj.mp hclass⟩

/-! ## The lines of uniforms -/

/-- The line of a uniform in the documentation. -/
def docText (u : String × UniformType) : String :=
  s!"    {u.1}: {u.2.spelling}"

/-- The attributes in the documentation. -/
def docOfAttributes (names : List String) : List Item :=
  (if names.isEmpty then [] else [Item.line "Attributes:"]) ++
  names.map (fun name => Item.line s!"    {name}")

/-- The names and the types of the uniforms. -/
def typedNames (plan : Plan) : List (String × UniformType) :=
  plan.uniforms.map fun u => (u.name, u.type)

/-- The documentation ends with the uniforms and the attributes. -/
theorem rowsAbove_eq_append (version : String) (plan : Plan) :
    ∃ front, rowsAbove version plan = front ++
      ((typedNames plan).map (fun u => row (1, docText u)) ++
      (entriesAll 1 (docOfAttributes (plan.attributes.map (·.name)))).map
        row) := by
  have htexts : ∀ u ∈ typedNames plan, docText u ≠ "" := by
    intro u _
    unfold docText
    simp [toString]
  obtain ⟨first, hdoc⟩ : ∃ first, docItems plan = first ++
      ((typedNames plan).map (fun u => .line (docText u)) ++
      docOfAttributes (plan.attributes.map (·.name))) := by
    refine ⟨[ Item.line s!"\"\"\"Shader program {qualifiedName plan.options}.",
      .blank, .line "Stages:" ] ++
      plan.stages.map (fun s =>
        Item.line s!"    {s.id}: {s.stage.kind.constantName}") ++
      (if plan.uniforms.isEmpty then [] else [Item.line "Uniforms:"]), ?_⟩
    unfold docItems docOfAttributes docText typedNames
    simp [Function.comp_def]
  have hentries : entriesAll 1 (docItems plan) = entriesAll 1 first ++
      ((typedNames plan).map (fun u => (1, docText u)) ++
      entriesAll 1 (docOfAttributes (plan.attributes.map (·.name)))) := by
    rw [hdoc, entriesAll_append, entriesAll_append, entriesAll_lines htexts]
  unfold rowsAbove
  generalize entriesAll 0 _ = above
  generalize s!"class {plan.options.className}(runtime.GLShader)" ++ ":" =
    header
  refine ⟨(above ++ (0, header) :: entriesAll 1 first).map row, ?_⟩
  rw [hentries]
  simp only [List.map_append, List.map_cons, List.map_map, List.append_assoc,
    List.cons_append, Function.comp_def]

/-- The lines of the text that are about uniforms. -/
def docLines (us : List (String × UniformType)) : List (List Char) :=
  us.flatMap fun u => fullLines (row (1, docText u)).toList

/-- The lines of uniforms tell the types if the names are known: what stands
before the type is the same then, however many lines it takes. -/
theorem types_of_docLines {us vs : List (String × UniformType)}
    (hnames : us.map Prod.fst = vs.map Prod.fst) :
    (docLines us).length = (docLines vs).length ∧
    (docLines us = docLines vs → us.map Prod.snd = vs.map Prod.snd) := by
  induction us generalizing vs with
  | nil =>
    cases vs with
    | nil => simp
    | cons v vs => simp at hnames
  | cons u us ih =>
    cases vs with
    | nil => simp at hnames
    | cons v vs =>
      rw [List.map_cons, List.map_cons, List.cons.injEq] at hnames
      obtain ⟨hlength, htypes⟩ := ih hnames.2
      obtain ⟨front, last, hlines⟩ :=
        Text.exists_fullLines_append (row (1, s!"    {u.1}: ")).toList
      have hline : ∀ t, fullLines (row (1, docText (u.1, t))).toList =
          front ++ [last ++ t.spelling.toList] := by
        intro t
        obtain ⟨hone, hne⟩ := t.spelling_oneLine
        rw [← hlines _ hone (by simpa using hne)]
        unfold docText
        simp [row, toString]
      have hu : u = (u.1, u.2) := rfl
      have hv : v = (u.1, v.2) := by rw [hnames.1]
      have hcons : ∀ (u : String × UniformType) us, docLines (u :: us) =
          fullLines (row (1, docText u)).toList ++ docLines us :=
        fun _ _ => List.flatMap_cons
      rw [hcons, hcons, hu, hv, hline, hline]
      refine ⟨by simp [hlength], fun h => ?_⟩
      rw [List.append_assoc, List.append_assoc, List.append_cancel_left_eq,
        List.singleton_append, List.singleton_append, List.cons.injEq,
        List.append_cancel_left_eq] at h
      rw [List.map_cons, List.map_cons, htypes h.2,
        UniformType.spelling_inj (String.toList_inj.mp h.1)]

theorem types_of_rowsAbove {version : String}
    (h : (rowsAbove version p).flatMap (fullLines ·.toList) =
      (rowsAbove version q).flatMap (fullLines ·.toList))
    (huniforms : p.uniforms.map (·.name) = q.uniforms.map (·.name))
    (hattributes : p.attributes.map (·.name) = q.attributes.map (·.name)) :
    p.uniforms.map (·.type) = q.uniforms.map (·.type) := by
  obtain ⟨front, hp⟩ := rowsAbove_eq_append version p
  obtain ⟨front', hq⟩ := rowsAbove_eq_append version q
  rw [hp, hq, hattributes] at h
  simp only [List.flatMap_append, List.flatMap_map, ← List.append_assoc,
    List.append_cancel_right_eq] at h
  have hnames : (typedNames p).map Prod.fst = (typedNames q).map Prod.fst := by
    simpa [typedNames, Function.comp_def] using huniforms
  obtain ⟨hlength, htypes⟩ := types_of_docLines hnames
  have htypes := htypes (List.append_inj' h hlength).2
  simpa [typedNames, Function.comp_def] using htypes

end ModuleText

end ShaderBindings
