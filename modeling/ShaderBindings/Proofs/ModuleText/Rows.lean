import ShaderBindings.Proofs.ModuleText.Legible

/-!
# Generated modules — Rows

The names of variables stand as they are in the documentation of the class, so
that a line of it may look like any other line. What comes after it does not, so
the end of the documentation is known by being the last line of its kind, and
two modules with the same text agree above it and below it.
-/

namespace ShaderBindings

namespace ModuleText

open Item
open Listing (row)

variable {plan : Plan}

/-! ## The end of the documentation -/

/-- The documentation of the class, up to the line that ends it. -/
def docItems (plan : Plan) : List Item :=
  [ Item.line s!"\"\"\"Shader program {qualifiedName plan.options}.",
    .blank,
    .line "Stages:" ] ++
  plan.stages.map (fun s =>
    Item.line s!"    {s.id}: {s.stage.kind.constantName}") ++
  (if plan.uniforms.isEmpty then [] else [Item.line "Uniforms:"]) ++
  plan.uniforms.map (fun u => Item.line s!"    {u.name}: {u.type.spelling}") ++
  (if plan.attributes.isEmpty then [] else [Item.line "Attributes:"]) ++
  plan.attributes.map (fun a => Item.line s!"    {a.name}")

/-- The methods after the one that compiles the program. -/
def methods (plan : Plan) : List Item :=
  recompile plan ++ compile plan ++ setParameter plan ++ getParameter plan ++
  getParameterLocation plan ++ passUniforms plan ++ useShader plan ++
  getShaderId plan ++ dispose plan ++ support plan ++ getUniformNames plan ++
  releaseProgram plan

/-- The fields and the methods of the class. -/
def members (plan : Plan) : List Item :=
  sharedFields plan ++ (instanceFields plan ++
    ((if plan.options.reload then loadShaders plan else []) ++
      (compileShader plan ++ methods plan)))

theorem classBody_eq (plan : Plan) :
    classBody plan =
      docItems plan ++ .line docEnd :: .blank :: members plan := by
  simp [classBody, classDoc, docItems, docEnd, members, methods]

section Legible

variable (h : plan.Legible)

include h in
theorem legible_members : AllLegible 1 (members plan) := by
  have hfixed := legible_fixed h
  simp only [allLegible_append] at hfixed
  simp [members, methods, hfixed, legible_sharedFields h,
    legible_instanceFields h, legible_loadShaders h, legible_compileShader h,
    legible_passUniforms h, legible_useShader h, legible_getUniformNames]

/-- The rows above the end of the documentation. -/
def rowsAbove (version : String) (plan : Plan) : List String :=
  (entriesAll 0 (heading version plan ++ [decorator version plan.options]) ++
    (0, s!"class {plan.options.className}(runtime.GLShader)" ++ ":") ::
      entriesAll 1 (docItems plan)).map row

/-- The line that counts the references to the class. -/
def counterText (o : Options) : String :=
  s!"{o.className}._references = " ++
    s!"runtime.Counter({o.className}._release_program)"

/-- The rows below the end of the documentation. -/
def rowsBelow (plan : Plan) : List String :=
  (entriesAll 1 (members plan) ++ [(0, counterText plan.options)]).map row

theorem rows_items (version : String) (plan : Plan) :
    rows (items version plan) =
      rowsAbove version plan ++ row (1, docEnd) :: rowsBelow plan := by
  have hbody : entriesAll 1 (classBody plan) =
      entriesAll 1 (docItems plan) ++
        (1, docEnd) :: entriesAll 1 (members plan) := by
    rw [classBody_eq, entriesAll_append, entriesAll_line (by simp [docEnd]),
      entriesAll_blank]
  have hclass : entriesAll (0 + 1) (classBody plan) ≠ [] := by
    simp [hbody]
  have hcounter : counterText plan.options ≠ "" := by
    simp [counterText, toString]
  have hitems : items version plan =
      heading version plan ++ [.separate 2] ++
        [decorator version plan.options] ++
        [.suite s!"class {plan.options.className}(runtime.GLShader)"
          (classBody plan), .separate 2, .line (counterText plan.options)] := by
    simp [items, classItems, counterText]
  rw [hitems]
  simp only [rows, entriesAll_append, entriesAll_suite hclass, rowsAbove,
    rowsBelow]
  rw [entriesAll_separate, entriesAll_separate, entriesAll_line hcounter]
  simp [hbody]

theorem row_toList (e : Int × String) :
    (row e).toList = List.replicate (4 * e.1.toNat) ' ' ++ e.2.toList := by
  simp [row]

theorem row_inj {level : Int} {s t : String} :
    row (level, s) = row (level, t) ↔ s = t := by
  simp [row]

theorem oneLine_row {e : Int × String} (h : OneLine e.2) : OneLine (row e) := by
  simpa [OneLine, row_toList] using h

/-- A row inside the class is not the end of the documentation unless it is the
line that ends it. -/
theorem row_ne_docEnd {e : Int × String} (h : LegibleText e.1 e.2) :
    row e ≠ row (1, docEnd) := by
  obtain ⟨hlevel, _, hne⟩ := h
  intro heq
  by_cases hone : e.1 = 1
  · rw [← Prod.eta e, hone] at heq
    exact hne hone (row_inj.mp heq)
  · -- a deeper row has one more space than this
    have hdeep : 4 * e.1.toNat = 5 + (4 * e.1.toNat - 5) := by omega
    have hfifth := congrArg (·.toList[4]?) heq
    simp only [row_toList] at hfifth
    rw [hdeep, List.replicate_add] at hfifth
    simp [docEnd] at hfifth

include h in
theorem legible_rowsBelow {r : String} (hr : r ∈ rowsBelow plan) :
    OneLine r ∧ r ≠ "" ∧ r ≠ row (1, docEnd) := by
  simp only [rowsBelow, List.map_append, List.mem_append, List.mem_map] at hr
  rcases hr with ⟨e, he, rfl⟩ | hr
  · have htext := (legible_members h).entries e he
    refine ⟨oneLine_row htext.2.1, ?_, row_ne_docEnd htext⟩
    have := htext.1
    intro hempty
    have hlength := congrArg (·.toList.length) hempty
    simp [row_toList] at hlength
    omega
  · obtain rfl : counterText plan.options = r := by
      simpa [row] using hr
    refine ⟨?_, by simp [counterText, toString], ?_⟩
    · simp (disch := exact oneLine_ofList _ rfl)
        [counterText, h.className, oneLine_eq_true]
    · intro heq
      have hdot : '.' ∈ (row (1, docEnd)).toList := by
        rw [← heq]
        simp [counterText, toString]
      simp [row_toList, docEnd] at hdot

include h in
/-- The lines of a module. -/
theorem fullLines_ofPlan (version : String) :
    Text.fullLines (ofPlan version plan).toList =
      (rowsAbove version plan).flatMap (Text.fullLines ·.toList) ++
        (row (1, docEnd)).toList :: (rowsBelow plan).map String.toList := by
  have hline : ∀ {r : String}, OneLine r → r ≠ "" →
      Text.fullLines r.toList = [r.toList] := by
    intro r hr hne
    exact Text.fullLines_of_notMem hr (by simpa using hne)
  have hbelow : (rowsBelow plan).flatMap (Text.fullLines ·.toList) =
      (rowsBelow plan).map String.toList := by
    rw [List.map_eq_flatMap]
    refine List.flatMap_congr fun r hr => ?_
    exact hline (legible_rowsBelow h hr).1 (legible_rowsBelow h hr).2.1
  have hend : Text.fullLines (row (1, docEnd)).toList =
      [(row (1, docEnd)).toList] :=
    hline (oneLine_row (by simp [OneLine, docEnd])) (by simp [row, docEnd])
  rw [ofPlan, fullLines_render, rows_items, List.flatMap_append,
    List.flatMap_cons, hend, hbelow]
  rfl

end Legible

/-- The last of the elements that are alike splits a list in one way only. -/
theorem append_cons_inj {α : Type} {a : α} {xs ys xs' ys' : List α}
    (h : xs ++ a :: ys = xs' ++ a :: ys') (hys : a ∉ ys) (hys' : a ∉ ys') :
    xs = xs' ∧ ys = ys' := by
  rcases List.append_eq_append_iff.mp h with
    ⟨more, hxs, hrest⟩ | ⟨more, hxs, hrest⟩
  · cases more with
    | nil => simpa [hxs] using hrest
    | cons b more =>
      rw [List.cons_append, List.cons.injEq] at hrest
      exact absurd (by rw [hrest.2]; simp) hys
  · cases more with
    | nil => simpa [hxs] using hrest.symm
    | cons b more =>
      rw [List.cons_append, List.cons.injEq] at hrest
      exact absurd (by rw [hrest.2]; simp) hys'

/-- Two modules with the same text agree in their rows on both sides of the end
of the documentation. -/
theorem rows_of_ofPlan_eq {version : String} {p q : Plan} (hp : p.Legible)
    (hq : q.Legible) (h : ofPlan version p = ofPlan version q) :
    (rowsAbove version p).flatMap (Text.fullLines ·.toList) =
      (rowsAbove version q).flatMap (Text.fullLines ·.toList) ∧
    rowsBelow p = rowsBelow q := by
  have hlines := congrArg (Text.fullLines ·.toList) h
  simp only [fullLines_ofPlan hp, fullLines_ofPlan hq] at hlines
  have hends : ∀ {plan : Plan}, plan.Legible →
      (row (1, docEnd)).toList ∉ (rowsBelow plan).map String.toList := by
    intro plan hplan hmem
    obtain ⟨r, hr, heq⟩ := List.mem_map.mp hmem
    exact (legible_rowsBelow hplan hr).2.2 (String.toList_inj.mp heq)
  obtain ⟨habove, hbelow⟩ := append_cons_inj hlines (hends hp) (hends hq)
  exact ⟨habove,
    List.map_injective_iff.mpr (fun _ _ => String.toList_inj.mp) hbelow⟩

end ModuleText

end ShaderBindings
