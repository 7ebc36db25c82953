import Mathlib.Data.List.DropRight
import ShaderBindings.Act
import ShaderBindings.Proofs.Listing

/-!
# Listings — Layout

A listing is written step by step, and a step may fail, also inside a suite. The
steps that are taken leave marks, and the lines follow from the marks alone: a
row for each line and each header, one row under every header, and between two
rows the most blank lines that were asked for.
-/

namespace ShaderBindings.Listing

/-! ## Steps -/

/-- A step of what writes a listing. -/
inductive Step
  | line (text : String)
  | separate (count : Int)
  /-- Steps one level deeper, under a header. -/
  | suite (header : String) (body : List Step)
  | fail (error : Error)
  /-- Steps up to one that fails, which is passed over. -/
  | attempt (body : List Step)

/-- What a listing is asked for: a row at its level, a row that is the header of
a suite, or blank lines. -/
inductive Mark
  | row (entry : Int × String)
  | header (entry : Int × String)
  | gap (count : Nat)

/-- The row of a mark. -/
def Mark.entry? : Mark → Option (Int × String)
  | .row entry | .header entry => some entry
  | .gap _ => none

/-- The rows among marks. -/
def entries (log : List Mark) : List (Int × String) :=
  log.filterMap Mark.entry?

section Entries

variable {entry : Int × String} {count : Nat} {log more : List Mark}

@[simp] theorem entries_nil : entries [] = [] := rfl

@[simp] theorem entries_row :
    entries (.row entry :: log) = entry :: entries log :=
  rfl

@[simp] theorem entries_header :
    entries (.header entry :: log) = entry :: entries log :=
  rfl

@[simp] theorem entries_gap : entries (.gap count :: log) = entries log := rfl

theorem entries_cons {mark : Mark} (h : mark.entry? = some entry) :
    entries (mark :: log) = entry :: entries log :=
  List.filterMap_cons_some h

@[simp] theorem entries_append :
    entries (log ++ more) = entries log ++ entries more :=
  List.filterMap_append

@[simp] theorem entries_gaps (gaps : List Nat) :
    entries (gaps.map .gap) = [] := by
  simp [entries, List.filterMap_map, Function.comp_def, Mark.entry?]

end Entries

namespace Step

mutual

/-- Takes a step. A suite is left whatever comes of its steps. -/
def run : Step → Act Listing Unit
  | .line text => .modify (·.addLine text)
  | .separate count => .modify (·.separate count)
  | .suite header body => do
    Act.modify (·.openSuite header)
    let opened ← Act.get
    Act.ensuring (runAll body) (.modify (·.closeSuite opened.lines.length))
  | .fail error => .fail error
  | .attempt body => do
    let _ ← Act.attempt (runAll body)

/-- Takes steps, up to one that fails. -/
def runAll : List Step → Act Listing Unit
  | [] => pure ()
  | step :: rest => do
    run step
    runAll rest

end

mutual

/-- What comes of a step. -/
def outcome : Step → Except Error Unit
  | .line _ | .separate _ | .attempt _ => .ok ()
  | .suite _ body => outcomeAll body
  | .fail error => .error error

/-- What comes of steps: the error of the first that fails. -/
def outcomeAll : List Step → Except Error Unit
  | [] => .ok ()
  | step :: rest =>
    match outcome step with
    | .ok _ => outcomeAll rest
    | .error error => .error error

end

mutual

/-- The marks of a step at a level. Steps that have no row leave a `pass` in
their suite, and no other mark. -/
def marks (level : Int) : Step → List Mark
  | .line text => [if text = "" then .gap 1 else .row (level, text)]
  | .separate count => [.gap count.toNat]
  | .suite header body =>
    .header (level, header ++ ":") ::
      (if (entries (marksAll (level + 1) body)).isEmpty then
        [.row (level + 1, "pass")]
      else marksAll (level + 1) body)
  | .fail _ => []
  | .attempt body => marksAll level body

/-- The marks of steps. Nothing after one that fails leaves a mark. -/
def marksAll (level : Int) : List Step → List Mark
  | [] => []
  | step :: rest =>
    match outcome step with
    | .ok _ => marks level step ++ marksAll level rest
    | .error _ => marks level step

end

mutual

/-- The texts of the lines in a step. -/
def texts : Step → List String
  | .line text => [text]
  | .separate _ | .fail _ => []
  | .suite _ body | .attempt body => textsAll body

/-- The texts of the lines in steps. -/
def textsAll : List Step → List String
  | [] => []
  | step :: rest => texts step ++ textsAll rest

end

mutual

/-- What is true of the texts of the lines, of headers and of `pass` is true of
the text of every row. -/
theorem forall_marks {P : String → Prop} (hpass : P "pass")
    (hheader : ∀ header, P (header ++ ":")) (level : Int) (step : Step)
    (h : ∀ text ∈ texts step, text ≠ "" → P text) :
    ∀ entry ∈ entries (marks level step), P entry.2 := by
  cases step with
  | line text =>
    rw [marks]
    split
    · simp
    · rename_i hne
      simpa using h text (by simp [texts]) hne
  | separate count => simp [marks]
  | suite header body =>
    have hbody := forall_marksAll hpass hheader (level + 1) body
      (by simpa only [texts] using h)
    rw [marks, entries_header, List.forall_mem_cons]
    refine ⟨hheader header, ?_⟩
    split
    · simpa using hpass
    · exact hbody
  | fail error => simp [marks]
  | attempt body =>
    rw [marks]
    exact forall_marksAll hpass hheader level body
      (by simpa only [texts] using h)

theorem forall_marksAll {P : String → Prop} (hpass : P "pass")
    (hheader : ∀ header, P (header ++ ":")) (level : Int) (steps : List Step)
    (h : ∀ text ∈ textsAll steps, text ≠ "" → P text) :
    ∀ entry ∈ entries (marksAll level steps), P entry.2 := by
  cases steps with
  | nil => simp [marksAll]
  | cons step rest =>
    simp only [textsAll, List.forall_mem_append] at h
    have hstep := forall_marks hpass hheader level step h.1
    have hrest := forall_marksAll hpass hheader level rest h.2
    rw [marksAll]
    split
    · rw [entries_append, List.forall_mem_append]
      exact ⟨hstep, hrest⟩
    · exact hstep

end

/-- No row is blank. -/
theorem marksAll_ne_empty (level : Int) (steps : List Step) :
    ∀ entry ∈ entries (marksAll level steps), entry.2 ≠ "" :=
  forall_marksAll (by decide) (by simp) level steps fun _ _ h => h

mutual

/-- The first row of a step is at its level. -/
theorem head?_marks (level : Int) (step : Step) :
    ∀ entry ∈ (entries (marks level step)).head?, entry.1 = level := by
  cases step with
  | line text =>
    rw [marks]
    split <;> simp
  | separate count => simp [marks]
  | suite header body => simp [marks]
  | fail error => simp [marks]
  | attempt body =>
    rw [marks]
    exact head?_marksAll level body

theorem head?_marksAll (level : Int) (steps : List Step) :
    ∀ entry ∈ (entries (marksAll level steps)).head?, entry.1 = level := by
  cases steps with
  | nil => simp [marksAll]
  | cons step rest =>
    have hstep := head?_marks level step
    have hrest := head?_marksAll level rest
    rw [marksAll]
    split
    · rw [entries_append, List.head?_append]
      cases hfirst : (entries (marks level step)).head? with
      | none => simpa using hrest
      | some first => simpa using hstep first hfirst
    · exact hstep

end

end Step

/-! ## Headers -/

/-- After every header comes a row that is one level deeper. -/
def Deepens (log : List Mark) : Prop :=
  ∀ entry post, .header entry :: post <:+ log →
    ∃ text, (entries post).head? = some (entry.1 + 1, text)

theorem deepens_nil : Deepens [] := by
  intro entry post h
  simp at h

theorem Deepens.cons {mark : Mark} {log : List Mark} (h : Deepens log)
    (hmark : ∀ entry, mark = .header entry →
      ∃ text, (entries log).head? = some (entry.1 + 1, text)) :
    Deepens (mark :: log) := by
  intro entry post hsuffix
  rcases List.suffix_cons_iff.mp hsuffix with heq | hsuffix
  · obtain ⟨rfl, rfl⟩ := List.cons.inj heq
    exact hmark entry rfl
  · exact h entry post hsuffix

theorem Deepens.append {log more : List Mark} (h : Deepens log)
    (hmore : Deepens more) : Deepens (log ++ more) := by
  induction log with
  | nil => exact hmore
  | cons mark log ih =>
    have htail : Deepens log := fun entry post hsuffix =>
      h entry post (hsuffix.trans (List.suffix_cons mark log))
    refine (ih htail).cons fun entry hmark => ?_
    obtain ⟨text, htext⟩ := h entry log (hmark ▸ List.suffix_refl _)
    exact ⟨text, by rw [entries_append, List.head?_append, htext]; rfl⟩

namespace Step

mutual

theorem deepens_marks (level : Int) (step : Step) :
    Deepens (marks level step) := by
  have single {mark : Mark} (h : ∀ entry, mark ≠ .header entry) :
      Deepens [mark] :=
    deepens_nil.cons fun entry heq => (h entry heq).elim
  cases step with
  | line text =>
    rw [marks]
    split <;> exact single (by simp)
  | separate count => exact single (by simp)
  | suite header body =>
    rw [marks]
    split
    · refine (single (by simp)).cons ?_
      rintro entry ⟨⟩
      exact ⟨"pass", rfl⟩
    · rename_i hrows
      refine (deepens_marksAll (level + 1) body).cons ?_
      rintro entry ⟨⟩
      -- the first row of the suite is there, and at the level of the suite
      cases hfirst : (entries (marksAll (level + 1) body)).head? with
      | none => simp [List.head?_eq_none_iff.mp hfirst] at hrows
      | some first =>
        have hlevel := head?_marksAll (level + 1) body first hfirst
        exact ⟨first.2, by rw [← hlevel]⟩
  | fail error => exact deepens_nil
  | attempt body =>
    rw [marks]
    exact deepens_marksAll level body

theorem deepens_marksAll (level : Int) (steps : List Step) :
    Deepens (marksAll level steps) := by
  cases steps with
  | nil => exact deepens_nil
  | cons step rest =>
    rw [marksAll]
    split
    · exact (deepens_marks level step).append (deepens_marksAll level rest)
    · exact deepens_marks level step

end

end Step

/-! ## Laying out -/

/-- The lines with what a mark adds. -/
def lay (lines : List String) : Mark → List String
  | .row entry | .header entry => lines ++ [row entry]
  | .gap count =>
    if lines.isEmpty then lines
    else lines ++ List.replicate (count - trailingBlanks lines) ""

/-- The listing with what marks add. -/
def laid (l : Listing) (log : List Mark) : Listing :=
  { l with lines := log.foldl lay l.lines }

theorem laid_append (l : Listing) (log more : List Mark) :
    l.laid (log ++ more) = (l.laid log).laid more := by
  simp [laid]

theorem laid_deeper (l : Listing) (levels : Int) (log : List Mark) :
    (l.deeper levels).laid log = (l.laid log).deeper levels :=
  rfl

theorem deeper_deeper (l : Listing) : (l.deeper 1).deeper (-1) = l := by
  simp only [deeper, Int.add_neg_cancel_right]

theorem separate_eq (l : Listing) (count : Int) :
    l.separate count = l.laid [.gap count.toNat] := by
  have hmissing : (count - trailingBlanks l.lines).toNat =
      count.toNat - trailingBlanks l.lines := by
    omega
  simp only [separate, laid, lay, List.foldl_cons, List.foldl_nil, hmissing]
  split <;> rfl

theorem addLine_eq (l : Listing) (text : String) :
    l.addLine text =
      l.laid [if text = "" then .gap 1 else .row (l.indent, text)] := by
  by_cases h : text = ""
  · rw [if_pos h, addLine, h]
    exact separate_eq l 1
  · simp [addLine, h, laid, lay, row_eq]

theorem openSuite_eq (l : Listing) (header : String) :
    l.openSuite header =
      (l.laid [.header (l.indent, header ++ ":")]).deeper 1 := by
  have hheader : header ++ ":" ≠ "" := by simp
  rw [openSuite, addLine_eq, if_neg hheader]
  rfl

theorem row_ne_empty {entry : Int × String} (h : entry.2 ≠ "") :
    row entry ≠ "" := by
  simp [row, h]

theorem Adds.row_laid {entry : Int × String} {log : List Mark}
    (hentry : entry.2 ≠ "")
    (h : ∀ l : Listing, Adds l (l.laid log) ((entries log).map row))
    (l : Listing) :
    Adds l (Listing.laid { l with lines := l.lines ++ [row entry] } log)
      ((entry :: entries log).map row) := by
  have hrow := row_ne_empty hentry
  have hfirst : Adds l { l with lines := l.lines ++ [row entry] }
      [row entry] :=
    ⟨_, rfl, by simp [hrow]⟩
  exact hfirst.trans (h _)

/-- Marks add their rows, and maybe blank lines among them. -/
theorem adds_laid {log : List Mark} (h : ∀ entry ∈ entries log, entry.2 ≠ "")
    (l : Listing) : Adds l (l.laid log) ((entries log).map row) := by
  induction log generalizing l with
  | nil => exact .refl l
  | cons mark rest ih =>
    cases mark with
    | row entry | header entry =>
      obtain ⟨hentry, hrest⟩ := List.forall_mem_cons.mp h
      exact .row_laid hentry (ih hrest) l
    | gap count =>
      have hfirst := adds_separate l count
      rw [separate_eq, Int.toNat_natCast] at hfirst
      exact hfirst.trans (ih h _)

/-- A suite that is left has the marks that were added since, or a `pass`. -/
theorem closeSuite_laid {log : List Mark}
    (h : ∀ entry ∈ entries log, entry.2 ≠ "") (opened : Listing) :
    (opened.laid log).closeSuite opened.lines.length =
      (opened.laid (if (entries log).isEmpty then
        [.row (opened.indent, "pass")] else log)).deeper (-1) := by
  obtain ⟨more, hlines, hrows⟩ := adds_laid h opened
  have hblank : more.all (· == "") = (entries log).isEmpty := by
    rw [← List.isEmpty_map, ← hrows, Bool.eq_iff_iff]
    simp
  have hdrop : (opened.laid log).lines.drop opened.lines.length = more := by
    simp [hlines]
  have htake :
      (opened.laid log).lines.take opened.lines.length = opened.lines := by
    simp [hlines]
  rw [closeSuite, hdrop, htake, hblank]
  split
  · rw [addLine_eq]
    rfl
  · rfl

namespace Step

theorem run_suite (header : String) (body : List Step) (l : Listing) :
    run (.suite header body) l =
      ((runAll body (l.openSuite header)).1,
        (runAll body (l.openSuite header)).2.closeSuite
          (l.openSuite header).lines.length) := by
  rw [run]
  rfl

theorem run_attempt (body : List Step) (l : Listing) :
    run (.attempt body) l = (.ok (), (runAll body l).2) := by
  rw [run]
  rfl

mutual

/-- A step adds its marks, whatever comes of it. -/
theorem run_eq (step : Step) (l : Listing) :
    run step l = (outcome step, l.laid (marks l.indent step)) := by
  cases step with
  | line text =>
    rw [run, outcome, marks, ← addLine_eq]
    rfl
  | separate count =>
    rw [run, outcome, marks, ← separate_eq]
    rfl
  | suite header body =>
    rw [run_suite, runAll_eq body, outcome, marks, openSuite_indent,
      closeSuite_laid (marksAll_ne_empty _ body), openSuite_indent,
      openSuite_eq, laid_deeper, laid_deeper, deeper_deeper]
    rfl
  | fail error =>
    rw [run, outcome, marks]
    rfl
  | attempt body =>
    rw [run_attempt, runAll_eq body, outcome, marks]

theorem runAll_eq (steps : List Step) (l : Listing) :
    runAll steps l = (outcomeAll steps, l.laid (marksAll l.indent steps)) := by
  cases steps with
  | nil =>
    rw [runAll, outcomeAll, marksAll]
    rfl
  | cons step rest =>
    have hstep := run_eq step l
    have hrest := runAll_eq rest (run step l).2
    rw [runAll, outcomeAll, marksAll]
    cases houtcome : outcome step with
    | ok =>
      rw [houtcome] at hstep
      simp only [hstep] at hrest
      simp only [Bind.bind, Act.bind, hstep, hrest, laid_append]
      rfl
    | error error =>
      rw [houtcome] at hstep
      simp only [Bind.bind, Act.bind, hstep]

end

end Step

/-! ## Blank lines -/

section Blanks

variable {log : List Mark} {entry : Int × String}

theorem lay_of_entry? {mark : Mark} (h : mark.entry? = some entry)
    (lines : List String) : lay lines mark = lines ++ [row entry] := by
  cases mark with
  | row e | header e =>
    cases h
    rfl
  | gap count => cases h

theorem trailingBlanks_append {line : String} (h : line ≠ "")
    (front : List String) (count : Nat) :
    trailingBlanks (front ++ line :: List.replicate count "") = count := by
  simp [trailingBlanks, h]

/-- Of all gaps after a row the widest is left. -/
theorem foldl_lay_gaps {line : String} (h : line ≠ "") (front : List String)
    (gaps : List Nat) (count : Nat) :
    (gaps.map .gap).foldl lay (front ++ line :: List.replicate count "") =
      front ++ line :: List.replicate (gaps.foldl max count) "" := by
  induction gaps generalizing count with
  | nil => rfl
  | cons gap rest ih =>
    have hlay : lay (front ++ line :: List.replicate count "") (.gap gap) =
        front ++ line :: List.replicate (max count gap) "" := by
      rw [lay, trailingBlanks_append h, if_neg (by simp), List.append_assoc,
        List.cons_append, List.replicate_append_replicate]
      congr 3
      omega
    rw [List.map_cons, List.foldl_cons, hlay, ih, List.foldl_cons]

/-- No blank line comes before the first row. -/
theorem head?_foldl_lay (h : ∀ entry ∈ entries log, entry.2 ≠ "") :
    (log.foldl lay []).head? ≠ some "" := by
  induction log with
  | nil => simp
  | cons mark rest ih =>
    cases mark with
    | row entry | header entry =>
      obtain ⟨hentry, hrest⟩ := List.forall_mem_cons.mp h
      obtain ⟨more, hlines, -⟩ := adds_laid hrest ⟨0, [row entry]⟩
      change (Listing.laid ⟨0, [row entry]⟩ rest).lines.head? ≠ some ""
      simpa [hlines] using row_ne_empty hentry
    | gap count => exact ih h

/-- Between two rows that follow each other stand as many blank lines as the
widest gap between them. -/
theorem exists_foldl_lay {entry' : Int × String} {mark mark' : Mark}
    {pre post : List Mark} {gaps : List Nat}
    (h : ∀ e ∈ entries (pre ++ mark :: (gaps.map .gap ++ mark' :: post)),
      e.2 ≠ "")
    (hmark : mark.entry? = some entry) (hmark' : mark'.entry? = some entry') :
    ∃ front back,
      (pre ++ mark :: (gaps.map .gap ++ mark' :: post)).foldl lay [] =
        front ++ row entry :: (List.replicate (gaps.foldl max 0) "" ++
          row entry' :: back) ∧
      front.filter (· ≠ "") = (entries pre).map row ∧
      back.filter (· ≠ "") = (entries post).map row := by
  have hall : entries (pre ++ mark :: (gaps.map .gap ++ mark' :: post)) =
      entries pre ++ entry :: entry' :: entries post := by
    rw [entries_append, entries_cons hmark, entries_append, entries_gaps,
      List.nil_append, entries_cons hmark']
  rw [hall, List.forall_mem_append, List.forall_mem_cons,
    List.forall_mem_cons] at h
  obtain ⟨hpre, hentry, -, hpost⟩ := h
  obtain ⟨front, hfront, hrows⟩ := adds_laid hpre ⟨0, []⟩
  obtain ⟨back, hback, hrows'⟩ := adds_laid hpost
    ⟨0, front ++ row entry :: List.replicate (gaps.foldl max 0) "" ++
      [row entry']⟩
  refine ⟨front, back, ?_, hrows, hrows'⟩
  have hgaps := foldl_lay_gaps (row_ne_empty hentry) front gaps 0
  rw [List.replicate_zero] at hgaps
  simp only [laid, List.nil_append] at hfront hback
  rw [List.foldl_append, hfront, List.foldl_cons, lay_of_entry? hmark,
    List.foldl_append, hgaps, List.foldl_cons, lay_of_entry? hmark', hback]
  simp

end Blanks

/-- The lines of a listing follow from marks. -/
structure Follows (l : Listing) (log : List Mark) : Prop where
  /-- The lines that are not blank are the rows, in order. -/
  rows : l.lines.filter (· ≠ "") = (entries log).map row
  deepens : Deepens log
  /-- No blank line comes before the first row. -/
  start : l.lines.head? ≠ some ""
  /-- Between two rows that follow each other stand as many blank lines as the
  widest gap between them. -/
  between : ∀ (pre : List Mark) mark (gaps : List Nat) mark' post entry entry',
    log = pre ++ mark :: (gaps.map .gap ++ mark' :: post) →
    mark.entry? = some entry → mark'.entry? = some entry' →
    ∃ front back,
      l.lines = front ++ row entry :: (List.replicate (gaps.foldl max 0) "" ++
        row entry' :: back) ∧
      front.filter (· ≠ "") = (entries pre).map row ∧
      back.filter (· ≠ "") = (entries post).map row

namespace Step

/-- The lines of an empty listing follow from the marks of the steps. -/
theorem follows_runAll (steps : List Step) :
    Follows (runAll steps {}).2 (marksAll 0 steps) := by
  have hne := marksAll_ne_empty 0 steps
  have hrun := congrArg (·.2.lines) (runAll_eq steps {})
  obtain ⟨more, hlines, hrows⟩ := adds_laid hne {}
  dsimp only at hrun
  refine ⟨?_, deepens_marksAll 0 steps, ?_, ?_⟩
  · rw [hrun, hlines, List.nil_append, hrows]
  · rw [hrun]
    exact head?_foldl_lay hne
  · intro pre mark gaps mark' post entry entry' hlog hmark hmark'
    rw [hlog] at hne hrun
    rw [hrun]
    exact exists_foldl_lay hne hmark hmark'

example :
    (runAll [.suite "a" [.line "", .suite "b" [.separate 1]], .separate 2,
      .line "c"] {}).2.lines =
      ["a:", "", "    b:", "        pass", "", "", "c"] := by
  decide

end Step

/-! ## Rendering -/

/-- A listing is rendered once and for all: the text is that of its lines, ends
in exactly one line feed, and blank lines at the end are all that is dropped for
it. -/
structure Renders (l : Listing) : Prop where
  text : l.render = "\n".intercalate l.trimEnd.lines ++ "\n"
  ends : ∃ body, l.render.toList = body ++ ['\n'] ∧ body.getLast? ≠ some '\n'
  again : l.trimEnd.render = l.render
  dropped : ∃ count, l.lines = l.trimEnd.lines ++ List.replicate count ""
  trimmed : l.trimEnd.lines.getLast? ≠ some ""

theorem trimEnd_lines (l : Listing) :
    l.trimEnd.lines = l.lines.rdropWhile (· == "") :=
  rfl

theorem trimEnd_trimEnd (l : Listing) : l.trimEnd.trimEnd = l.trimEnd := by
  have hlines : l.trimEnd.trimEnd.lines = l.trimEnd.lines := by
    rw [trimEnd_lines, trimEnd_lines, List.rdropWhile_idempotent]
  exact congrArg (Listing.mk l.indent) hlines

theorem exists_lines_eq_trimEnd (l : Listing) :
    ∃ count, l.lines = l.trimEnd.lines ++ List.replicate count "" := by
  have hblank : l.lines.rtakeWhile (· == "") =
      List.replicate (l.lines.rtakeWhile (· == "")).length "" :=
    List.eq_replicate_length.mpr fun line hline => by
      simpa using List.mem_rtakeWhile_imp hline
  refine ⟨(l.lines.rtakeWhile (· == "")).length, ?_⟩
  rw [trimEnd_lines, ← hblank, List.rdropWhile_append_rtakeWhile]

theorem getLast?_trimEnd (l : Listing) :
    l.trimEnd.lines.getLast? ≠ some "" := by
  rw [trimEnd_lines]
  intro hlast
  have hne : l.lines.rdropWhile (· == "") ≠ [] := by
    rintro hnil
    simp [hnil] at hlast
  rw [List.getLast?_eq_some_getLast hne, Option.some_inj] at hlast
  exact List.rdropWhile_last_not (· == "") l.lines hne (by simp [hlast])

theorem getLast?_intercalate {last : List Char} (h : last ≠ [])
    (between : List Char) (front : List (List Char)) :
    (between.intercalate (front ++ [last])).getLast? = last.getLast? := by
  induction front with
  | nil => simp
  | cons first rest ih =>
    obtain ⟨next, more, hrest⟩ :=
      List.exists_cons_of_ne_nil (show rest ++ [last] ≠ [] by simp)
    rw [hrest] at ih
    have hne : between.intercalate (next :: more) ≠ [] := by
      intro hnil
      rw [hnil] at ih
      exact h (List.getLast?_eq_none_iff.mp ih.symm)
    rw [List.cons_append, hrest, List.intercalate_cons_cons,
      List.getLast?_append_of_ne_nil _ hne, ih]

/-- A text ends in one line feed if no line does. -/
theorem ends_of_forall {l : Listing}
    (h : ∀ line ∈ l.lines, line.toList.getLast? ≠ some '\n') :
    ∃ body, l.render.toList = body ++ ['\n'] ∧ body.getLast? ≠ some '\n' := by
  refine ⟨("\n".intercalate l.trimEnd.lines).toList, ?_, ?_⟩
  · simp [render, text]
  · rw [String.toList_intercalate]
    rcases List.eq_nil_or_concat l.trimEnd.lines with
      hlines | ⟨front, last, hlines⟩
    · simp [hlines]
    · have hmem : last ∈ l.lines :=
        (List.rdropWhile_prefix (· == "") l.lines).subset
          (by rw [← trimEnd_lines, hlines]; simp)
      have hlast : last ≠ "" := by
        simpa [hlines] using getLast?_trimEnd l
      rw [hlines, List.concat_eq_append, List.map_append, List.map_singleton,
        getLast?_intercalate (by simpa using hlast)]
      exact h last hmem

theorem getLast?_row {entry : Int × String} (hne : entry.2 ≠ "") :
    (row entry).toList.getLast? = entry.2.toList.getLast? := by
  rw [row, String.toList_append,
    List.getLast?_append_of_ne_nil _ (by simpa using hne)]

namespace Step

/-- Lines whose texts have no line feed are rendered as lines. -/
theorem renders_runAll {steps : List Step}
    (h : ∀ text ∈ textsAll steps, '\n' ∉ text.toList) :
    Renders (runAll steps {}).2 := by
  refine ⟨rfl, ends_of_forall fun line hline => ?_, ?_,
    exists_lines_eq_trimEnd _, getLast?_trimEnd _⟩
  · by_cases hblank : line = ""
    · simp [hblank]
    · have hrow : line ∈ (entries (marksAll 0 steps)).map row := by
        rw [← (follows_runAll steps).rows]
        simp [hline, hblank]
      obtain ⟨entry, hentry, rfl⟩ := List.mem_map.mp hrow
      rw [getLast?_row (marksAll_ne_empty 0 steps entry hentry)]
      refine forall_marksAll (P := fun text => text.toList.getLast? ≠ some '\n')
        (by decide) (by simp) 0 steps ?_ entry hentry
      exact fun text htext _ hlast =>
        h text htext (List.mem_of_getLast? hlast)
  · rw [render, trimEnd_trimEnd, render]

/-- Steps on an empty listing, any of which may fail: every suite leaves the
indentation as it was, the lines follow from the marks, and what is rendered of
them ends in one line feed. -/
theorem runAll_layout (steps : List Step)
    (h : ∀ text ∈ textsAll steps, '\n' ∉ text.toList) :
    (∀ header body l, (run (.suite header body) l).2.indent = l.indent) ∧
    (runAll steps {}).1 = outcomeAll steps ∧
    Follows (runAll steps {}).2 (marksAll 0 steps) ∧
    Renders (runAll steps {}).2 := by
  refine ⟨fun header body l => ?_, ?_, follows_runAll steps,
    renders_runAll h⟩
  · rw [run_eq]
    rfl
  · rw [runAll_eq]

/-- A suite that fails before it has a row. -/
def failing : List Step :=
  [.line "a", .attempt [.suite "b" [.separate 2, .fail (.context .noWindow)]],
    .line "", .separate 2, .line "c"]

theorem runAll_layout_failing :
    (∀ text ∈ textsAll failing, '\n' ∉ text.toList) ∧
    Follows (runAll failing {}).2 (marksAll 0 failing) ∧
    Renders (runAll failing {}).2 :=
  have h : ∀ text ∈ textsAll failing, '\n' ∉ text.toList := by
    decide
  ⟨h, (runAll_layout failing h).2.2⟩

end Step

end ShaderBindings.Listing
