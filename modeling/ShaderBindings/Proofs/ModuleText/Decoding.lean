import ShaderBindings.Proofs.ModuleText.Rows

/-!
# Generated modules — What the members tell

The rows of the fields and the methods are read from the first to the last. Each
block of rows is told from what follows it by a character near the start of the
row, and what a row is about by the literal or the identifier in it. So two
classes with the same members have the same kinds of stages, the same sources or
the same paths of them, and variables with the same names.
-/

namespace ShaderBindings

open Text (literal)

/-! ## Blocks -/

section Blocks

variable {α β γ δ : Type}

/-- A block is told from what follows by a property that its elements have and
the first element after it has not. -/
theorem append_inj_of_head {p : α → Prop} {xs ys xs' ys' : List α}
    (h : xs ++ ys = xs' ++ ys') (hxs : ∀ x ∈ xs, p x) (hxs' : ∀ x ∈ xs', p x)
    (hys : ∀ y ∈ ys.head?, ¬ p y) (hys' : ∀ y ∈ ys'.head?, ¬ p y) :
    xs = xs' ∧ ys = ys' := by
  induction xs generalizing xs' with
  | nil =>
    cases xs' with
    | nil => exact ⟨rfl, h⟩
    | cons x' more =>
      rw [List.nil_append] at h
      exact absurd (hxs' x' List.mem_cons_self) (hys x' (by simp [h]))
  | cons x more ih =>
    cases xs' with
    | nil =>
      rw [List.nil_append] at h
      exact absurd (hxs x List.mem_cons_self) (hys' x (by simp [← h]))
    | cons x' more' =>
      rw [List.cons_append, List.cons_append, List.cons.injEq] at h
      obtain ⟨hmore, hrest⟩ := ih h.2
        (fun y hy => hxs y (List.mem_cons_of_mem _ hy))
        (fun y hy => hxs' y (List.mem_cons_of_mem _ hy))
      exact ⟨by rw [h.1, hmore], hrest⟩

/-- What each element is written as tells something about it, and so does what a
list is written as. -/
theorem map_eq_of_map_eq {f : α → γ} {f' : β → γ} {g : α → δ} {g' : β → δ}
    {xs : List α} {ys : List β} (h : xs.map f = ys.map f')
    (htell : ∀ x ∈ xs, ∀ y ∈ ys, f x = f' y → g x = g' y) :
    xs.map g = ys.map g' := by
  induction xs generalizing ys with
  | nil =>
    cases ys with
    | nil => rfl
    | cons y ys => simp at h
  | cons x xs ih =>
    cases ys with
    | nil => simp at h
    | cons y ys =>
      rw [List.map_cons, List.map_cons, List.cons.injEq] at h
      rw [List.map_cons, List.map_cons,
        htell x List.mem_cons_self y List.mem_cons_self h.1,
        ih h.2 fun a ha b hb => htell a (List.mem_cons_of_mem _ ha) b
          (List.mem_cons_of_mem _ hb)]

end Blocks

/-! ## Texts in rows -/

/-- An identifier is told from what follows if that starts with a character that
no identifier has. -/
theorem isPlain_append_inj {s t : String} {c d : Char} {rest rest' : List Char}
    (hs : IsPlain s) (ht : IsPlain t) (hc : Text.isWordChar c = false)
    (hd : Text.isWordChar d = false)
    (h : s.toList ++ c :: rest = t.toList ++ d :: rest') :
    s = t ∧ c :: rest = d :: rest' := by
  obtain ⟨hst, hrest⟩ := append_inj_of_head (p := (Text.isWordChar · = true)) h
    hs ht (by simp [hc]) (by simp [hd])
  exact ⟨String.toList_inj.mp hst, hrest⟩

theorem StageKind.eq_of_starts {kind kind' : StageKind} {cs : List Char}
    (h : kind.stem.toList <+: cs) (h' : kind'.stem.toList <+: cs) :
    kind = kind' := by
  obtain ⟨rest, rfl⟩ := h
  obtain ⟨rest', h'⟩ := h'
  cases kind <;> cases kind' <;> simp [StageKind.stem] at h' ⊢

namespace ModuleText

open Item
open Listing (row)

variable {plan p q : Plan}

theorem row_getElem? (text : String) (n : Nat) :
    (row (1, text)).toList[4 + n]? = text.toList[n]? := by
  rw [Nat.add_comm]
  simp [row_toList]

/-! ## Tables -/

/-- A row that is deeper than the fields of the class. -/
def Deep (r : String) : Prop :=
  r.toList[4]? = some ' '

theorem deep_rows {α : Type} (xs : List α) (text : α → String) :
    ∀ r ∈ xs.map (fun x => row (2, text x)), Deep r := by
  intro r hr
  obtain ⟨x, _, rfl⟩ := List.mem_map.mp hr
  simp [Deep, row_toList]

/-- A block of deeper rows ends where a row is not. -/
theorem not_deep_head {c : Char} {text : String}
    (hc : text.toList[0]? = some c) (hne : c ≠ ' ') (rest : List String) :
    ∀ r ∈ (row (1, text) :: rest).head?, ¬ Deep r := by
  intro r hr
  rw [List.head?_cons, Option.mem_some_iff] at hr
  rw [← hr, Deep, row_getElem? text 0, hc]
  simpa using hne

/-- The line of an entry of a table. -/
def entryText (e : String × String) : String :=
  literal e.1 ++ ": " ++ e.2 ++ ","

/-- The rows of a table. -/
def mappingRows (name : String) (entries : List (String × String)) :
    List String :=
  (entriesAll 1 (mapping name entries)).map row

theorem mappingRows_nil (name : String) :
    mappingRows name [] = [row (1, name ++ " = \x7b\x7d")] := by
  have hne : name ++ " = \x7b\x7d" ≠ "" := by simp
  rw [mappingRows, mapping, if_pos (by rfl)]
  exact congrArg (List.map row) (entriesAll_line hne [])

theorem mappingRows_cons (name : String) (e : String × String)
    (es : List (String × String)) :
    mappingRows name (e :: es) = row (1, name ++ " = \x7b") ::
      ((e :: es).map (fun e => row (2, entryText e)) ++ [row (1, "\x7d")]) := by
  have hne : name ++ " = \x7b" ≠ "" := by simp
  have hentries : ∀ x ∈ e :: es, entryText x ≠ "" := by simp [entryText]
  have hmapping : mapping name (e :: es) =
      [.line (name ++ " = \x7b")] ++
        [.deeper ((e :: es).map fun e => .line (entryText e))] ++
        [.line "\x7d"] := by
    simp [mapping, entryText, toString, String.append_assoc]
  rw [mappingRows, hmapping, entriesAll_append, entriesAll_append,
    entriesAll_line hne, entriesAll_line (by simp), entriesAll_cons,
    Item.entries, entriesAll_lines hentries]
  simp

/-- The first row of a table starts with its name. -/
theorem head_mappingRows (name : String) (entries : List (String × String)) :
    ∃ more rest, mappingRows name entries = row (1, name ++ more) :: rest := by
  cases entries with
  | nil => exact ⟨_, _, mappingRows_nil name⟩
  | cons e es => exact ⟨_, _, mappingRows_cons name e es⟩

/-- A table tells its keys, and what follows it. -/
theorem mappingRows_inj {name : String} {es es' : List (String × String)}
    {rest rest' : List String}
    (h : mappingRows name es ++ rest = mappingRows name es' ++ rest') :
    es.map Prod.fst = es'.map Prod.fst ∧ rest = rest' := by
  have hopen : row (1, name ++ " = \x7b\x7d") ≠ row (1, name ++ " = \x7b") := by
    simp [row_inj]
  have hkey : ∀ e e' : String × String,
      row (2, entryText e) = row (2, entryText e') → e.1 = e'.1 := by
    intro e e' heq
    have hchars := congrArg String.toList (row_inj.mp heq)
    simp only [entryText, String.toList_append, List.append_assoc] at hchars
    exact (Text.literal_append_inj hchars).1
  have hclose : ∀ rest : List String,
      ∀ r ∈ ([row (1, "\x7d")] ++ rest).head?, ¬ Deep r :=
    not_deep_head (c := '\x7d') (by simp) (by decide)
  cases es with
  | nil =>
    cases es' with
    | nil => simpa [mappingRows_nil] using h
    | cons e' es' =>
      rw [mappingRows_nil, mappingRows_cons, List.cons_append, List.cons_append,
        List.cons.injEq] at h
      exact absurd h.1 hopen
  | cons e es =>
    cases es' with
    | nil =>
      rw [mappingRows_nil, mappingRows_cons, List.cons_append, List.cons_append,
        List.cons.injEq] at h
      exact absurd h.1.symm hopen
    | cons e' es' =>
      rw [mappingRows_cons, mappingRows_cons, List.cons_append,
        List.cons_append, List.cons.injEq, List.append_assoc,
        List.append_assoc] at h
      obtain ⟨hentries, hrest⟩ := append_inj_of_head h.2 (deep_rows _ _)
        (deep_rows _ _) (hclose _) (hclose _)
      exact ⟨map_eq_of_map_eq hentries fun e _ e' _ => hkey e e',
        by simpa using hrest⟩

/-! ## Rows below the documentation -/

/-- The methods from the one that loads the stages on. -/
def allMethods (plan : Plan) : List Item :=
  (if plan.options.reload then loadShaders plan else []) ++
    (compileShader plan ++ methods plan)

/-- The rows from the first method after the one that makes an instance. -/
def rowsOfMethods (plan : Plan) : List String :=
  (entriesAll 1 (allMethods plan) ++ [(0, counterText plan.options)]).map row

/-- The line that sets the transpose flag of an instance. -/
def transposeText (b : Bool) : String :=
  s!"self.transpose_matrix = {boolText b}"

/-- The line that declares the field of a uniform. -/
def fieldText (u : PlannedUniform) : String :=
  s!"self.uniform_{u.id}: {u.type.valueType} = " ++ u.type.firstValue

/-- The line that loads the source of a stage. -/
def loadText (className : String) (s : PlannedStage) : String :=
  s!"{className}._{s.id}_source = " ++
    s!"Path({literal s.stage.path}).read_text()"

theorem rows_sharedFields (plan : Plan) :
    (entriesAll 1 (sharedFields plan)).map row =
      row (1, "_program_id = 0") :: row (1, "_references: runtime.Counter") ::
      (plan.located.map (fun v => row (1, locationText v)) ++
        plan.stages.map
          (fun s => row (1, sourceText plan.options.reload s)) ++
      (mappingRows "_UNIFORMS" (plan.uniforms.map uniformEntry) ++
        mappingRows "_LOCATIONS" (plan.located.map locationEntry))) := by
  have hlocations : ∀ v ∈ plan.located, locationText v ≠ "" := by
    simp [locationText]
  have hsources : ∀ s ∈ plan.stages,
      sourceText plan.options.reload s ≠ "" := by
    simp [sourceText]
  rw [sharedFields_eq]
  simp only [entriesAll_append, entriesAll_lines hlocations,
    entriesAll_lines hsources, List.map_append, mappingRows, List.map_map,
    Function.comp_def]
  simp [entriesAll_line]

theorem rows_instanceFields (plan : Plan) :
    (entriesAll 1 (instanceFields plan)).map row =
      row (1, "def __init__(self) -> None" ++ ":") ::
        row (2, transposeText plan.options.transpose) ::
        plan.uniforms.map (fun u => row (2, fieldText u)) := by
  have htranspose : transposeText plan.options.transpose ≠ "" := by
    unfold transposeText
    simp [toString]
  have hfields : ∀ u ∈ plan.uniforms, fieldText u ≠ "" := by
    unfold fieldText
    simp [toString]
  let body : List Item := .line (transposeText plan.options.transpose) ::
    plan.uniforms.map (fun u => .line (fieldText u))
  have hbody : entriesAll (1 + 1) body =
      (2, transposeText plan.options.transpose) ::
        plan.uniforms.map (fun u => (2, fieldText u)) := by
    rw [entriesAll_line htranspose, entriesAll_lines hfields]
    rfl
  have hitems : instanceFields plan =
      [.suite "def __init__(self) -> None" body, .blank] :=
    rfl
  rw [hitems, entriesAll_suite (by rw [hbody]; exact List.cons_ne_nil _ _),
    hbody, entriesAll_blank]
  simp only [entriesAll_nil, List.append_nil, List.map_cons, List.map_map,
    Function.comp_def]

theorem rowsBelow_eq (plan : Plan) :
    rowsBelow plan =
      row (1, "_program_id = 0") :: row (1, "_references: runtime.Counter") ::
      (plan.located.map (fun v => row (1, locationText v)) ++
        plan.stages.map
          (fun s => row (1, sourceText plan.options.reload s)) ++
      (mappingRows "_UNIFORMS" (plan.uniforms.map uniformEntry) ++
      (mappingRows "_LOCATIONS" (plan.located.map locationEntry) ++
        row (1, "def __init__(self) -> None" ++ ":") ::
        row (2, transposeText plan.options.transpose) ::
        (plan.uniforms.map (fun u => row (2, fieldText u)) ++
          rowsOfMethods plan)))) := by
  rw [rowsBelow, members, entriesAll_append, entriesAll_append,
    List.append_assoc, List.append_assoc, List.map_append, List.map_append,
    rows_sharedFields, rows_instanceFields]
  simp only [rowsOfMethods, allMethods, List.cons_append, List.append_assoc]

/-- The methods start with the one that compiles the program, or with the one
that loads the sources of the stages. -/
theorem rowsOfMethods_eq (plan : Plan) :
    ∃ rest, rowsOfMethods plan = row (1, "@staticmethod") ::
      if plan.options.reload then
        row (1, "def _load_shaders() -> None" ++ ":") ::
        row (2, "\"\"\"Re-read every stage from the file it was generated " ++
          "from.\"\"\"") ::
        (plan.stages.map
          (fun s => row (2, loadText plan.options.className s)) ++
          row (1, "@staticmethod") :: rest)
      else row (1, "def compile_shader() -> None" ++ ":") :: rest := by
  have hstatic : "@staticmethod" ≠ "" := by simp
  have hcompile : ∃ rest, entriesAll 1 (compileShader plan ++ methods plan) =
      (1, "@staticmethod") ::
        (1, "def compile_shader() -> None" ++ ":") :: rest := by
    unfold compileShader
    rw [List.cons_append, entriesAll_line hstatic, List.cons_append,
      entriesAll_cons, Item.entries]
    exact ⟨_, rfl⟩
  obtain ⟨rest, hcompile⟩ := hcompile
  cases hreload : plan.options.reload with
  | false =>
    refine ⟨(rest ++ [(0, counterText plan.options)]).map row, ?_⟩
    simp [rowsOfMethods, allMethods, hreload, hcompile]
  | true =>
    have hloads : ∀ s ∈ plan.stages,
        loadText plan.options.className s ≠ "" := by
      unfold loadText
      simp [toString]
    let body : List Item := .line
        ("\"\"\"Re-read every stage from the file it was generated " ++
          "from.\"\"\"") ::
      plan.stages.map fun s => .line (loadText plan.options.className s)
    have hbody : entriesAll (1 + 1) body =
        (2, "\"\"\"Re-read every stage from the file it was generated " ++
          "from.\"\"\"") ::
        plan.stages.map fun s => (2, loadText plan.options.className s) := by
      rw [entriesAll_line (by simp), entriesAll_lines hloads]
      rfl
    have hitems : loadShaders plan =
        [.line "@staticmethod", .suite "def _load_shaders() -> None" body,
          .blank] :=
      rfl
    have hload : entriesAll 1 (loadShaders plan) =
        (1, "@staticmethod") ::
          (1, "def _load_shaders() -> None" ++ ":") ::
          entriesAll (1 + 1) body := by
      rw [hitems, entriesAll_line hstatic,
        entriesAll_suite (by rw [hbody]; exact List.cons_ne_nil _ _),
        entriesAll_blank, entriesAll_nil, List.append_nil]
    refine ⟨((1, "def compile_shader() -> None" ++ ":") ::
      (rest ++ [(0, counterText plan.options)])).map row, ?_⟩
    rw [rowsOfMethods, allMethods, if_pos hreload, entriesAll_append, hload,
      hbody, hcompile]
    simp only [List.map_cons, List.map_append, List.map_map, List.cons_append,
      List.append_assoc, Function.comp_def, if_true]

theorem not_deep_methods (plan : Plan) :
    ∀ r ∈ (rowsOfMethods plan).head?, ¬ Deep r := by
  obtain ⟨rest, hrows⟩ := rowsOfMethods_eq plan
  rw [hrows]
  exact not_deep_head (c := '@') (by simp) (by decide) _

/-! ## Reading -/

/-- The rows of locations have an `l` where those of stages have the first
character of a kind, and those of tables have a capital. -/
theorem fifth_location {r : String}
    (hr : r ∈ plan.located.map fun v => row (1, locationText v)) :
    r.toList[5]? = some 'l' := by
  obtain ⟨v, _, rfl⟩ := List.mem_map.mp hr
  rw [row_getElem? _ 1]
  simp [locationText]

theorem fifth_source (hplan : plan.Legible) {reload : Bool} {r : String}
    (hr : r ∈ plan.stages.map fun s => row (1, sourceText reload s)) :
    ∃ c ∈ Plan.stageInitials, r.toList[5]? = some c := by
  obtain ⟨s, hs, rfl⟩ := List.mem_map.mp hr
  obtain ⟨c, hc, hfirst⟩ := Plan.charAt_of_stem (hplan.stems s hs)
  refine ⟨c, hc, ?_⟩
  rw [row_getElem? _ 1]
  cases hchars : s.id.toList with
  | nil => simp [hchars] at hfirst
  | cons d more => simpa [sourceText, hchars] using hfirst

theorem fifth_uniforms {es : List (String × String)} {rest : List String} :
    ∀ r ∈ (mappingRows "_UNIFORMS" es ++ rest).head?,
      ¬ r.toList[5]? ≠ some 'U' := by
  intro r hr
  obtain ⟨more, rows, hrows⟩ := head_mappingRows "_UNIFORMS" es
  rw [hrows] at hr
  obtain rfl : row (1, "_UNIFORMS" ++ more) = r := by simpa using hr
  rw [row_getElem? _ 1]
  simp

theorem transposeText_injective {b b' : Bool}
    (h : transposeText b = transposeText b') : b = b' := by
  have hchars := congrArg (·.toList[24]?) h
  unfold transposeText at hchars
  cases b <;> cases b' <;> simp [boolText, toString] at hchars ⊢

/-- What the rows below the documentation tell, block by block. -/
structure SameBlocks (p q : Plan) : Prop where
  sources : p.stages.map (fun s => row (1, sourceText p.options.reload s)) =
    q.stages.map (fun s => row (1, sourceText q.options.reload s))
  uniforms : p.uniforms.map (·.name) = q.uniforms.map (·.name)
  located : p.located.map Prod.fst = q.located.map Prod.fst
  transpose : p.options.transpose = q.options.transpose
  methods : rowsOfMethods p = rowsOfMethods q

theorem sameBlocks_of_rowsBelow_eq (hp : p.Legible) (hq : q.Legible)
    (h : rowsBelow p = rowsBelow q) : SameBlocks p q := by
  have hblock : ∀ {plan : Plan}, plan.Legible →
      ∀ r ∈ plan.located.map (fun v => row (1, locationText v)) ++
        plan.stages.map
          (fun s => row (1, sourceText plan.options.reload s)),
        r.toList[5]? ≠ some 'U' := by
    intro plan hplan r hr heq
    rcases List.mem_append.mp hr with hr | hr
    · rw [fifth_location hr] at heq
      cases heq
    · obtain ⟨c, hc, hr⟩ := fifth_source hplan hr
      rw [hr, Option.some.injEq] at heq
      subst heq
      simp [Plan.stageInitials] at hc
  have hlast : ∀ {plan : Plan}, plan.Legible →
      ∀ r ∈ (plan.stages.map
        (fun s => row (1, sourceText plan.options.reload s))).head?,
        ¬ r.toList[5]? = some 'l' := by
    intro plan hplan r hr heq
    obtain ⟨c, hc, hr⟩ := fifth_source hplan (List.mem_of_mem_head? hr)
    rw [hr, Option.some.injEq] at heq
    subst heq
    simp [Plan.stageInitials] at hc
  rw [rowsBelow_eq, rowsBelow_eq, List.cons.injEq, List.cons.injEq] at h
  obtain ⟨hblocks, hrest⟩ := append_inj_of_head h.2.2 (hblock hp) (hblock hq)
    fifth_uniforms fifth_uniforms
  obtain ⟨huniforms, hrest⟩ := mappingRows_inj hrest
  obtain ⟨hlocated, hrest⟩ := mappingRows_inj hrest
  rw [List.cons.injEq, List.cons.injEq] at hrest
  obtain ⟨-, htranspose, hrest⟩ := hrest
  obtain ⟨-, hsources⟩ := append_inj_of_head hblocks
    (fun r => fifth_location) (fun r => fifth_location) (hlast hp) (hlast hq)
  obtain ⟨-, hmethods⟩ := append_inj_of_head hrest (deep_rows _ _)
    (deep_rows _ _) (not_deep_methods p) (not_deep_methods q)
  refine ⟨hsources, ?_, ?_, transposeText_injective (row_inj.mp htranspose),
    hmethods⟩
  · simpa [uniformEntry, Function.comp_def] using huniforms
  · simpa [locationEntry, Function.comp_def] using hlocated

namespace SameBlocks

/-- A stage is known by what its identifier starts with. -/
theorem kinds (hp : p.Legible) (hq : q.Legible) (h : SameBlocks p q) :
    p.stages.map (·.stage.kind) = q.stages.map (·.stage.kind) := by
  refine map_eq_of_map_eq h.sources fun s hs t ht heq => ?_
  obtain ⟨more, hmore⟩ : ∃ more, sourceText p.options.reload s =
      "_" ++ (s.id ++ more) := ⟨_, String.append_assoc⟩
  obtain ⟨more', hmore'⟩ : ∃ more, sourceText q.options.reload t =
      "_" ++ (t.id ++ more) := ⟨_, String.append_assoc⟩
  rw [row_inj, hmore, hmore'] at heq
  have hchars : s.id.toList ++ more.toList = t.id.toList ++ more'.toList := by
    simpa using congrArg String.toList heq
  have hstem : s.stage.kind.stem.toList <+: s.id.toList ++ more.toList :=
    (hp.stems s hs).trans (List.prefix_append _ _)
  rw [hchars] at hstem
  exact StageKind.eq_of_starts hstem
    ((hq.stems t ht).trans (List.prefix_append _ _))

/-- The sources are literals unless they are loaded. -/
theorem texts (hp : p.Legible) (hq : q.Legible) (h : SameBlocks p q)
    (hreload : p.options.reload = false) (hreload' : q.options.reload = false) :
    p.stages.map (·.stage.text) = q.stages.map (·.stage.text) := by
  refine map_eq_of_map_eq h.sources fun s hs t ht heq => ?_
  have hsource : ∀ s : PlannedStage, (sourceText false s).toList =
      '_' :: ((s.id ++ "_source").toList ++
        ' ' :: '=' :: ' ' :: (literal s.stage.text).toList) := by
    intro s
    simp [sourceText]
  have hchars := congrArg String.toList (row_inj.mp heq)
  rw [hreload, hreload', hsource, hsource, List.cons.injEq] at hchars
  obtain ⟨-, hrest⟩ := isPlain_append_inj
    ((hp.stages s hs).append (by decide)) ((hq.stages t ht).append (by decide))
    (by decide) (by decide) hchars.2
  simp only [List.cons.injEq, true_and] at hrest
  exact Text.literal_injective (String.toList_inj.mp hrest)

theorem attributes (h : SameBlocks p q) :
    p.attributes.map (·.name) = q.attributes.map (·.name) := by
  have hlocated := h.located
  simp only [Plan.located, List.map_append, List.map_map, Function.comp_def,
    h.uniforms] at hlocated
  exact List.append_cancel_left hlocated

/-- Stages are loaded if there is a method for it. -/
theorem reload (h : SameBlocks p q) : p.options.reload = q.options.reload := by
  have hne : row (1, "def _load_shaders() -> None" ++ ":") ≠
      row (1, "def compile_shader() -> None" ++ ":") := by
    simp [row_inj, -String.reduceAppend]
  obtain ⟨rest, hrows⟩ := rowsOfMethods_eq p
  obtain ⟨rest', hrows'⟩ := rowsOfMethods_eq q
  have hmethods := h.methods
  rw [hrows, hrows', List.cons.injEq] at hmethods
  cases hreload : p.options.reload <;> cases hreload' : q.options.reload
  · rfl
  · rw [hreload, hreload', if_neg Bool.false_ne_true, if_pos rfl,
      List.cons.injEq] at hmethods
    exact absurd hmethods.2.1.symm hne
  · rw [hreload, hreload', if_neg Bool.false_ne_true, if_pos rfl,
      List.cons.injEq] at hmethods
    exact absurd hmethods.2.1 hne
  · rfl

/-- The paths are literals if the sources are loaded. -/
theorem paths (hp : p.Legible) (hq : q.Legible) (h : SameBlocks p q)
    (hname : p.options.className = q.options.className)
    (hreload : p.options.reload = true) :
    p.stages.map (·.stage.path) = q.stages.map (·.stage.path) := by
  have hreload' : q.options.reload = true := h.reload ▸ hreload
  obtain ⟨rest, hrows⟩ := rowsOfMethods_eq p
  obtain ⟨rest', hrows'⟩ := rowsOfMethods_eq q
  have hmethods := h.methods
  rw [hrows, hrows', if_pos hreload, if_pos hreload', List.cons.injEq,
    List.cons.injEq, List.cons.injEq] at hmethods
  have hstatic : ∀ rest : List String,
      ∀ r ∈ (row (1, "@staticmethod") :: rest).head?, ¬ Deep r :=
    not_deep_head (c := '@') (by simp) (by decide)
  obtain ⟨hloads, -⟩ := append_inj_of_head hmethods.2.2.2 (deep_rows _ _)
    (deep_rows _ _) (hstatic _) (hstatic _)
  refine map_eq_of_map_eq hloads fun s hs t ht heq => ?_
  have hload : ∀ s : PlannedStage, (loadText p.options.className s).toList =
      (p.options.className ++ "._").toList ++ ((s.id ++ "_source").toList ++
        ' ' :: '=' :: ' ' :: 'P' :: 'a' :: 't' :: 'h' :: '(' ::
          ((literal s.stage.path).toList ++ ").read_text()".toList)) := by
    intro s
    unfold loadText
    simp [toString]
  have hchars := congrArg String.toList (row_inj.mp heq)
  rw [← hname, hload, hload, List.append_cancel_left_eq] at hchars
  obtain ⟨-, hrest⟩ := isPlain_append_inj
    ((hp.stages s hs).append (by decide)) ((hq.stages t ht).append (by decide))
    (by decide) (by decide) hchars
  simp only [List.cons.injEq, true_and] at hrest
  exact (Text.literal_append_inj hrest).1

end SameBlocks

end ModuleText

end ShaderBindings
