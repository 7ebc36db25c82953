import ShaderBindings.Listing

/-!
# Listings — What is written

The lines of a listing that are not blank are the rows of the items that were
written, each at its depth. Blank lines depend on what stands before them; rows
do not, and a rendered listing still tells them.
-/

namespace ShaderBindings

/-! ## Lines of a text -/

namespace Text

/-- The lines of a text that are not empty. -/
def fullLines (cs : List Char) : List (List Char) :=
  (cs.splitOn '\n').filter (· ≠ [])

@[simp] theorem fullLines_nil : fullLines [] = [] := by
  simp [fullLines]

theorem fullLines_append_lineFeed (cs ds : List Char) :
    fullLines (cs ++ '\n' :: ds) = fullLines cs ++ fullLines ds := by
  simp [fullLines, List.splitOn_append_cons_self]

theorem fullLines_of_notMem {cs : List Char} (hline : '\n' ∉ cs)
    (hne : cs ≠ []) : fullLines cs = [cs] := by
  simp [fullLines, List.splitOn_eq_singleton hline, hne]

theorem fullLines_intercalate (lines : List (List Char)) :
    fullLines (['\n'].intercalate lines) = lines.flatMap fullLines := by
  induction lines with
  | nil => simp
  | cons line rest ih =>
    cases rest with
    | nil => simp
    | cons next rest =>
      rw [List.intercalate_cons_cons, List.append_assoc, List.singleton_append,
        fullLines_append_lineFeed, ih, ← List.flatMap_cons]

/-- What is put at the end of a text without a line feed joins its last line. -/
theorem exists_fullLines_append (cs : List Char) :
    ∃ front last, ∀ ds, '\n' ∉ ds → ds ≠ [] →
      fullLines (cs ++ ds) = front ++ [last ++ ds] := by
  by_cases hline : '\n' ∈ cs
  · -- the last line feed is the first one from the end
    obtain ⟨last, front, hrev, hlast⟩ :=
      List.eq_append_cons_of_mem (List.mem_reverse.mpr hline)
    have hcs : cs = front.reverse ++ '\n' :: last.reverse := by
      rw [← List.reverse_reverse cs, hrev]
      simp
    refine ⟨fullLines front.reverse, last.reverse, fun ds hds hne => ?_⟩
    have hline : '\n' ∉ last.reverse ++ ds := by simp [hlast, hds]
    rw [hcs, List.append_assoc, List.cons_append, fullLines_append_lineFeed,
      fullLines_of_notMem hline (by simp [hne])]
  · refine ⟨[], cs, fun ds hds hne => fullLines_of_notMem ?_ ?_⟩
    · simp [hline, hds]
    · simp [hne]

end Text

/-! ## Rows -/

namespace Item

mutual

/-- The lines of an item that are not blank, with their depths. -/
def entries (level : Int) : Item → List (Int × String)
  | .line text => if text = "" then [] else [(level, text)]
  | .separate _ => []
  | .suite header body =>
    (level, header ++ ":") ::
      (if (entriesAll (level + 1) body).isEmpty then [(level + 1, "pass")]
      else entriesAll (level + 1) body)
  | .deeper body => entriesAll (level + 1) body

/-- The lines of items that are not blank, with their depths. -/
def entriesAll (level : Int) : List Item → List (Int × String)
  | [] => []
  | item :: rest => entries level item ++ entriesAll level rest

end

section Entries

variable {α : Type} {level : Int}

@[simp] theorem entriesAll_nil : entriesAll level [] = [] := rfl

theorem entriesAll_cons (item : Item) (rest : List Item) :
    entriesAll level (item :: rest) =
      entries level item ++ entriesAll level rest :=
  rfl

@[simp] theorem entriesAll_append (items more : List Item) :
    entriesAll level (items ++ more) =
      entriesAll level items ++ entriesAll level more := by
  induction items with
  | nil => rfl
  | cons item rest ih => simp [entriesAll_cons, ih]

theorem entriesAll_line {text : String} (h : text ≠ "") (rest : List Item) :
    entriesAll level (.line text :: rest) =
      (level, text) :: entriesAll level rest := by
  simp [entriesAll_cons, entries, h]

@[simp] theorem entriesAll_blank (rest : List Item) :
    entriesAll level (blank :: rest) = entriesAll level rest := by
  simp [entriesAll_cons, entries, blank]

@[simp] theorem entriesAll_separate (count : Nat) (rest : List Item) :
    entriesAll level (.separate count :: rest) = entriesAll level rest := by
  simp [entriesAll_cons, entries]

theorem entriesAll_suite {header : String} {body : List Item}
    (h : entriesAll (level + 1) body ≠ []) (rest : List Item) :
    entriesAll level (.suite header body :: rest) =
      (level, header ++ ":") ::
        (entriesAll (level + 1) body ++ entriesAll level rest) := by
  simp [entriesAll_cons, entries, h]

theorem entriesAll_lines {xs : List α} {text : α → String}
    (h : ∀ x ∈ xs, text x ≠ "") :
    entriesAll level (xs.map fun x => .line (text x)) =
      xs.map fun x => (level, text x) := by
  induction xs with
  | nil => rfl
  | cons x xs ih =>
    rw [List.map_cons, entriesAll_line (h x List.mem_cons_self),
      ih fun y hy => h y (List.mem_cons_of_mem _ hy), List.map_cons]

end Entries

end Item

namespace Listing

/-- A line at its depth: four spaces for each level, and then the text. -/
def row (entry : Int × String) : String :=
  .ofList (List.replicate (4 * entry.1.toNat) ' ') ++ entry.2

theorem row_eq (level : Int) (text : String) :
    row (level, text) = indentation level ++ text :=
  rfl

/-- The lines of one listing go on in another, with these rows and maybe blank
lines among them. -/
def Adds (l l' : Listing) (rows : List String) : Prop :=
  ∃ more, l'.lines = l.lines ++ more ∧ more.filter (· ≠ "") = rows

theorem Adds.refl (l : Listing) : Adds l l [] :=
  ⟨[], by simp, rfl⟩

theorem Adds.trans {l₁ l₂ l₃ : Listing} {rows rows' : List String}
    (h : Adds l₁ l₂ rows) (h' : Adds l₂ l₃ rows') :
    Adds l₁ l₃ (rows ++ rows') := by
  obtain ⟨more, hlines, rfl⟩ := h
  obtain ⟨more', hlines', rfl⟩ := h'
  exact ⟨more ++ more', by rw [hlines', hlines, List.append_assoc], by simp⟩

@[simp] theorem separate_indent (l : Listing) (count : Int) :
    (l.separate count).indent = l.indent := by
  unfold separate
  split <;> rfl

theorem adds_separate (l : Listing) (count : Int) :
    Adds l (l.separate count) [] := by
  unfold separate
  split
  · exact .refl l
  · exact ⟨_, rfl, by simp⟩

@[simp] theorem addLine_indent (l : Listing) (text : String) :
    (l.addLine text).indent = l.indent := by
  unfold addLine
  split
  · simp
  · rfl

theorem adds_addLine {text : String} (h : text ≠ "") (l : Listing) :
    Adds l (l.addLine text) [row (l.indent, text)] := by
  simp [Adds, addLine, h, row_eq]

theorem adds_addLine_empty (l : Listing) : Adds l (l.addLine "") [] :=
  adds_separate l 1

@[simp] theorem deeper_indent (l : Listing) (levels : Int) :
    (l.deeper levels).indent = l.indent + levels :=
  rfl

@[simp] theorem openSuite_indent (l : Listing) (header : String) :
    (l.openSuite header).indent = l.indent + 1 := by
  simp [openSuite]

/-- A suite that is left has the rows that were written since, or a `pass`. -/
theorem adds_closeSuite {l opened : Listing} {rows : List String}
    (h : Adds opened l rows) (hindent : l.indent = opened.indent) :
    Adds opened (l.closeSuite opened.lines.length)
      (if rows.isEmpty then [row (opened.indent, "pass")] else rows) := by
  obtain ⟨more, hlines, rfl⟩ := h
  have hblank : more.all (· == "") = (more.filter (· ≠ "")).isEmpty := by
    rw [Bool.eq_iff_iff]
    simp
  have hdrop : l.lines.drop opened.lines.length = more := by
    simp [hlines]
  have htake : l.lines.take opened.lines.length = opened.lines := by
    simp [hlines]
  rw [closeSuite, hdrop, htake, hblank]
  split
  · exact ⟨_, rfl, by simp [row_eq, hindent]⟩
  · exact ⟨more, hlines, rfl⟩

theorem closeSuite_indent (l : Listing) (start : Nat) :
    (l.closeSuite start).indent = l.indent - 1 := by
  unfold closeSuite
  split <;> simp [Int.sub_eq_add_neg]

end Listing

/-! ## Writing -/

namespace Item

open Listing

mutual

theorem write_indent (item : Item) (l : Listing) :
    (write item l).indent = l.indent := by
  cases item with
  | line text => simp [write]
  | separate count => simp [write]
  | suite header body =>
    rw [write, closeSuite_indent, writeAll_indent, openSuite_indent]
    omega
  | deeper body =>
    rw [write, deeper_indent, writeAll_indent, deeper_indent]
    omega

theorem writeAll_indent (items : List Item) (l : Listing) :
    (writeAll items l).indent = l.indent := by
  cases items with
  | nil => rw [writeAll]
  | cons item rest => rw [writeAll, writeAll_indent, write_indent]

end

mutual

/-- Writing an item adds its rows. -/
theorem adds_write (item : Item) (l : Listing) :
    Adds l (write item l) ((entries l.indent item).map row) := by
  cases item with
  | line text =>
    rw [write, entries]
    split
    · rename_i h
      rw [h]
      exact adds_addLine_empty l
    · rename_i h
      exact adds_addLine h l
  | separate count =>
    exact adds_separate l count
  | suite header body =>
    have hheader : header ++ ":" ≠ "" := by simp
    have hopen := adds_addLine hheader l
    have hbody := adds_writeAll body (l.openSuite header)
    have hclose := adds_closeSuite hbody (writeAll_indent body _)
    rw [openSuite_indent] at hclose
    rw [write, entries]
    simpa [apply_ite (List.map row)] using hopen.trans hclose
  | deeper body =>
    rw [write, entries]
    exact adds_writeAll body (l.deeper 1)

theorem adds_writeAll (items : List Item) (l : Listing) :
    Adds l (writeAll items l) ((entriesAll l.indent items).map row) := by
  cases items with
  | nil => exact .refl l
  | cons item rest =>
    have hfirst := adds_write item l
    have hrest := adds_writeAll rest (write item l)
    rw [write_indent] at hrest
    rw [writeAll, entriesAll, List.map_append]
    exact hfirst.trans hrest

end

end Item

namespace Listing

theorem filter_trimEnd (l : Listing) :
    l.trimEnd.lines.filter (· ≠ "") = l.lines.filter (· ≠ "") := by
  have hblank : (l.lines.reverse.takeWhile (· == "")).filter (· ≠ "") = [] := by
    rw [List.filter_eq_nil_iff]
    intro line hline
    have hall := List.all_takeWhile (p := (· == "")) (l := l.lines.reverse)
    simpa using List.all_eq_true.mp hall line hline
  rw [trimEnd, List.filter_reverse,
    ← List.nil_append (List.filter _ (List.dropWhile _ _)), ← hblank,
    ← List.filter_append, List.takeWhile_append_dropWhile, List.filter_reverse,
    List.reverse_reverse]

/-- A text has the full lines of its lines; the blank ones have none. -/
theorem fullLines_text (l : Listing) :
    Text.fullLines l.text.toList =
      (l.lines.filter (· ≠ "")).flatMap (Text.fullLines ·.toList) := by
  have hfilter : ∀ lines : List String,
      lines.flatMap (Text.fullLines ·.toList) =
        (lines.filter (· ≠ "")).flatMap (Text.fullLines ·.toList) := by
    intro lines
    induction lines with
    | nil => rfl
    | cons line rest ih => by_cases h : line = "" <;> simp [h, ih]
  rw [← hfilter, text, String.toList_append, String.toList_intercalate]
  simp [Text.fullLines_append_lineFeed, Text.fullLines_intercalate,
    List.flatMap_map]

end Listing

/-! ## Rendering -/

namespace Item

open Listing

/-- The rows of items that are written on their own. -/
def rows (items : List Item) : List String :=
  (entriesAll 0 items).map row

/-- The full lines of what is rendered are those of the rows. -/
theorem fullLines_render (items : List Item) :
    Text.fullLines (writeAll items {}).render.toList =
      (rows items).flatMap (Text.fullLines ·.toList) := by
  obtain ⟨more, hlines, hrows⟩ := adds_writeAll items {}
  rw [render, fullLines_text, filter_trimEnd, hlines, List.nil_append, hrows,
    rows]

end Item

end ShaderBindings
