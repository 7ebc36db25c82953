import ShaderBindings.Proofs.Arguments.Reading

/-!
# Arguments — Composition

Command lines compose. What becomes of an argument depends on it and on the file
system alone, so that skipped arguments can as well be left out, and a command
line that is put together of two has the stages and the problems of both. Of
each setting the last argument counts that gives it a value; what then remains
open is settled by the first stage.
-/

namespace ShaderBindings.Arguments

open File

variable {fs : System} {arg : String} {args before after more : List String}
variable {requests rest : List Request} {problems others : List Problem}
variable {a b c : Arguments}

/-! ## One verdict for each argument -/

/-- The argument is skipped. -/
def Skipped (fs : System) (arg : String) : Prop :=
  ∃ problem, Unusable fs arg problem

theorem Usable.not_skipped {request : Request} (h : Usable fs arg request) :
    ¬ Skipped fs arg := by
  rintro ⟨problem, hskip⟩
  cases h.read_eq.symm.trans hskip.read_eq

theorem Usable.unique {request other : Request} (h : Usable fs arg request)
    (h' : Usable fs arg other) : request = other :=
  Verdict.accepted.inj (h.read_eq.symm.trans h'.read_eq)

/-- The verdict is that the argument is skipped. -/
def Verdict.isSkipped : Verdict → Bool
  | .skipped _ => true
  | _ => false

theorem isSkipped_iff (fs : System) (arg : String) :
    (read fs arg).isSkipped = true ↔ Skipped fs arg := by
  rcases judged fs arg with ⟨request, h⟩ | ⟨problem, h⟩ | ⟨e, h⟩
  · simp [h.read_eq, Verdict.isSkipped, h.not_skipped]
  · simp only [h.read_eq, Verdict.isSkipped, true_iff]
    exact ⟨problem, h⟩
  · simp only [h.read_eq, Verdict.isSkipped, Bool.false_eq_true, false_iff]
    rintro ⟨problem, hskip⟩
    cases h.read_eq.symm.trans hskip.read_eq

instance (fs : System) : DecidablePred (Skipped fs) := fun arg =>
  decidable_of_iff _ (isSkipped_iff fs arg)

/-! ## Skipped arguments -/

theorem ReadsAll.filter (h : ReadsAll fs args requests problems) :
    ReadsAll fs (args.filter (¬ Skipped fs ·)) requests [] := by
  induction h with
  | nil => exact .nil
  | used h _ ih =>
    rw [List.filter_cons_of_pos (by simpa using h.not_skipped)]
    exact .used h ih
  | skipped h _ ih =>
    rw [List.filter_cons_of_neg (by simpa using ⟨_, h⟩)]
    exact ih

theorem ReadsAll.forall₂_problems (h : ReadsAll fs args requests problems) :
    List.Forall₂ (Unusable fs) (args.filter (Skipped fs ·)) problems := by
  induction h with
  | nil => exact .nil
  | used h _ ih =>
    rwa [List.filter_cons_of_neg (by simpa using h.not_skipped)]
  | skipped h _ ih =>
    rw [List.filter_cons_of_pos (by simpa using ⟨_, h⟩)]
    exact .cons h ih

/-- The problems are only passed on. -/
theorem ofRequests_of_problems (h : ofRequests requests problems = .ok a)
    (others : List Problem) :
    ofRequests requests others = .ok { a with problems := others } := by
  unfold ofRequests at h ⊢
  generalize stagesOf requests = stages at h ⊢
  cases stages with
  | nil =>
    cases h
    rfl
  | cons first rest =>
    cases hpath : (Path.ofText first.path).withSuffix ".py" with
    | error e =>
      simp only [hpath] at h
      cases h
    | ok path =>
      simp only [hpath] at h ⊢
      cases h
      rfl

/-! ## Two command lines as one -/

theorem ReadsAll.append (h : ReadsAll fs before requests problems)
    (hafter : ReadsAll fs after rest others) :
    ReadsAll fs (before ++ after) (requests ++ rest) (problems ++ others) := by
  induction h with
  | nil => exact hafter
  | used h _ ih => exact .used h ih
  | skipped h _ ih => exact .skipped h ih

theorem readsAll_of_append
    (h : ReadsAll fs (before ++ after) requests problems) :
    ∃ first second firsts seconds, ReadsAll fs before first firsts ∧
      ReadsAll fs after second seconds ∧ requests = first ++ second ∧
      problems = firsts ++ seconds := by
  induction before generalizing requests problems with
  | nil => exact ⟨[], requests, [], problems, .nil, h, rfl, rfl⟩
  | cons arg before ih =>
    cases h with
    | used h hrest =>
      obtain ⟨first, second, firsts, seconds, hbefore, hafter, rfl, rfl⟩ :=
        ih hrest
      exact ⟨_ :: first, second, firsts, seconds, .used h hbefore, hafter, rfl,
        rfl⟩
    | skipped h hrest =>
      obtain ⟨first, second, firsts, seconds, hbefore, hafter, rfl, rfl⟩ :=
        ih hrest
      exact ⟨first, second, _ :: firsts, seconds, .skipped h hbefore, hafter,
        rfl, rfl⟩

/-- A command line that is read to the end amounts to something. -/
theorem ReadsAll.parse_ok (h : ReadsAll fs args requests problems) :
    ∃ a, (parse fs args).1 = .ok a ∧ AmountTo requests problems a := by
  obtain ⟨a, ha, -⟩ := ofRequests_ok problems h.names_ne_nil
  exact ⟨a, parse_eq_ok_iff.mpr ⟨requests, problems, h, ha⟩,
    amountTo_of_ofRequests ha⟩

theorem stagesOf_append (requests rest : List Request) :
    stagesOf (requests ++ rest) = stagesOf requests ++ stagesOf rest :=
  List.filterMap_append

theorem AmountTo.append (h : AmountTo (requests ++ rest) (problems ++ others) a)
    (hb : AmountTo requests problems b) (hc : AmountTo rest others c) :
    a.stages = b.stages ++ c.stages ∧ a.problems = b.problems ++ c.problems := by
  rw [h.stages, hb.stages, hc.stages, h.problems, hb.problems, hc.problems]
  exact ⟨stagesOf_append requests rest, rfl⟩

/-- The parts of a command line that is read can be read on their own. -/
theorem parse_of_append (h : (parse fs (before ++ after)).1 = .ok a) :
    ∃ b c, (parse fs before).1 = .ok b ∧ (parse fs after).1 = .ok c ∧
      a.stages = b.stages ++ c.stages ∧
      a.problems = b.problems ++ c.problems := by
  obtain ⟨requests, problems, hread, hrequests⟩ := parse_eq_ok_iff.mp h
  obtain ⟨first, second, firsts, seconds, hbefore, hafter, rfl, rfl⟩ :=
    readsAll_of_append hread
  obtain ⟨b, hb, hbAmount⟩ := hbefore.parse_ok
  obtain ⟨c, hc, hcAmount⟩ := hafter.parse_ok
  exact ⟨b, c, hb, hc,
    (amountTo_of_ofRequests hrequests).append hbAmount hcAmount⟩

/-- Command lines that are read can be read as one. -/
theorem parse_append (h : (parse fs args).1 = .ok a)
    (hmore : (parse fs more).1 = .ok b) :
    ∃ c, (parse fs (args ++ more)).1 = .ok c := by
  obtain ⟨requests, problems, hread, -⟩ := parse_eq_ok_iff.mp h
  obtain ⟨rest, others, hrest, -⟩ := parse_eq_ok_iff.mp hmore
  obtain ⟨c, hc, -⟩ := (hread.append hrest).parse_ok
  exact ⟨c, hc⟩

/-! ## The last value -/

/-- None of the arguments is used to give the setting a value. -/
def NeverGiven {α : Type} (fs : System) (value? : Request → Option α)
    (args : List String) : Prop :=
  ∀ arg ∈ args, ∀ request, Usable fs arg request → value? request = none

/-- The value that is given to the setting by the last argument that is used to
give it one. -/
inductive LastGiven {α : Type} (fs : System) (value? : Request → Option α) :
    List String → Option α → Prop
  | never {args : List String} (h : NeverGiven fs value? args) :
    LastGiven fs value? args none
  | last (before : List String) {after : List String} {arg : String}
      {request : Request} {value : α} (h : Usable fs arg request)
      (hvalue : value? request = some value)
      (hafter : NeverGiven fs value? after) :
    LastGiven fs value? (before ++ arg :: after) (some value)

section Last

variable {α : Type} {value? : Request → Option α} {given : Option α}
variable {request : Request}

theorem LastGiven.cons (h : LastGiven fs value? args given)
    (hvalue : ∀ request, Usable fs arg request → value? request = none) :
    LastGiven fs value? (arg :: args) given := by
  cases h with
  | never h => exact .never (List.forall_mem_cons.mpr ⟨hvalue, h⟩)
  | @last before after _ _ _ h hgiven hafter =>
    exact .last (arg :: before) h hgiven hafter

/-- An argument that gives a value counts unless a later one does. -/
theorem LastGiven.used {value : α} (hrest : LastGiven fs value? args given)
    (h : Usable fs arg request) (hvalue : value? request = some value) :
    LastGiven fs value? (arg :: args) (given.or (some value)) := by
  cases hrest with
  | never hrest => exact .last [] h hvalue hrest
  | @last before after _ _ _ h' hgiven hafter =>
    exact .last (arg :: before) h' hgiven hafter

theorem last_cons (request : Request) (requests : List Request)
    (value? : Request → Option α) :
    last (request :: requests) value? =
      (last requests value?).or (value? request) := by
  cases hvalue : value? request with
  | none => simp [last, hvalue]
  | some value =>
    simp only [last, List.filterMap_cons_some hvalue, List.getLast?_cons]
    cases (requests.filterMap value?).getLast? <;> rfl

theorem ReadsAll.lastGiven (h : ReadsAll fs args requests problems)
    (value? : Request → Option α) :
    LastGiven fs value? args (last requests value?) := by
  induction h with
  | nil => exact .never (List.forall_mem_nil _)
  | @used arg args request requests problems h _ ih =>
    rw [last_cons]
    cases hvalue : value? request with
    | none =>
      rw [Option.or_none]
      refine ih.cons fun other h' => ?_
      rwa [← h.unique h']
    | some value => exact ih.used h hvalue
  | skipped h _ ih =>
    exact ih.cons fun request h' => absurd ⟨_, h⟩ h'.not_skipped

end Last

/-! ## The settings -/

/-- The stages are those of the arguments that are used for one, in order. -/
inductive Gathers (fs : System) : List String → List Stage → Prop
  | nil : Gathers fs [] []
  | stage {arg : String} {args : List String} {stage : Stage}
      {stages : List Stage} (h : Usable fs arg (.stage stage))
      (hrest : Gathers fs args stages) :
    Gathers fs (arg :: args) (stage :: stages)
  | other {arg : String} {args : List String} {stages : List Stage}
      (h : ∀ stage, ¬ Usable fs arg (.stage stage))
      (hrest : Gathers fs args stages) :
    Gathers fs (arg :: args) stages

theorem ReadsAll.gathers (h : ReadsAll fs args requests problems) :
    Gathers fs args (stagesOf requests) := by
  induction h with
  | nil => exact .nil
  | @used arg args request requests problems h _ ih =>
    cases request with
    | stage stage => exact .stage h ih
    | reload _ | output _ | className _ | package _ | contextVersion _ =>
      exact .other (fun stage h' => by cases h.unique h') ih
  | skipped h _ ih =>
    exact .other (fun stage h' => absurd ⟨_, h⟩ h'.not_skipped) ih

/-- Each setting has the value that is given to it last. A class name or an
output that is never given comes from the first stage. -/
structure Settled (fs : System) (args : List String) (a : Arguments) :
    Prop where
  stages : Gathers fs args a.stages
  reload : ∃ given, LastGiven fs Request.reload? args given ∧
    a.reload = given.getD false
  package : ∃ given, LastGiven fs Request.package? args given ∧
    a.package = given.getD "Shaders"
  contextVersion : ∃ given, LastGiven fs Request.contextVersion? args given ∧
    a.contextVersion = given.getD ⟨3, 0⟩
  className : ∃ given, LastGiven fs Request.className? args given ∧
    a.className = given.getD (suggestedName a.stages)
  output : ∃ given, LastGiven fs Request.output? args given ∧
    OutputIs given a.stages a.output

theorem ReadsAll.settled (h : ReadsAll fs args requests problems)
    (hamount : AmountTo requests problems a) : Settled fs args a where
  stages := hamount.stages ▸ h.gathers
  reload := ⟨_, h.lastGiven _, hamount.reload⟩
  package := ⟨_, h.lastGiven _, hamount.package⟩
  contextVersion := ⟨_, h.lastGiven _, hamount.contextVersion⟩
  className := ⟨_, h.lastGiven _, hamount.className⟩
  output := ⟨_, h.lastGiven _, hamount.output⟩

/-! ## Whole command lines -/

/-- A command line that is read is read as the same without the arguments that
are skipped, each of which leaves one problem, in order. It can be taken apart
and added to anywhere, the stages and problems of the parts being put together,
and every setting has the value that is given to it last. -/
theorem parse_composes (h : (parse fs args).1 = .ok a) :
    parse fs (args.filter (¬ Skipped fs ·)) =
      (.ok { a with problems := [] }, []) ∧
    List.Forall₂ (Unusable fs) (args.filter (Skipped fs ·)) a.problems ∧
    (parse fs args).2 = a.problems ∧
    (∀ before after, args = before ++ after → ∃ b c,
      (parse fs before).1 = .ok b ∧ (parse fs after).1 = .ok c ∧
      a.stages = b.stages ++ c.stages ∧
      a.problems = b.problems ++ c.problems) ∧
    (∀ more b, (parse fs more).1 = .ok b →
      ∃ c, (parse fs (args ++ more)).1 = .ok c) ∧
    Settled fs args a := by
  obtain ⟨requests, problems, hread, hrequests⟩ := parse_eq_ok_iff.mp h
  have hamount := amountTo_of_ofRequests hrequests
  refine ⟨?_, ?_, ?_, ?_, fun more b hmore => parse_append h hmore,
    hread.settled hamount⟩
  · simp only [parse, hread.filter.readAll_eq, Except.bind,
      ofRequests_of_problems hrequests []]
  · rw [hamount.problems]
    exact hread.forall₂_problems
  · rw [hamount.problems, parse, hread.readAll_eq]
  · rintro before after rfl
    exact parse_of_append h

/-- The last name that a class may have counts, not the one after it. -/
theorem parse_composes_renamed :
    let fs : System :=
      { entries := [(["a.vert"], .file [0x3b]), (["b.frag"], .file [])] }
    let args := ["-name=A", "b.frag", "-x", "-name=B", "a.vert", "-name=np"]
    ∃ a, (parse fs args).1 = .ok a ∧
      parse fs (args.filter (¬ Skipped fs ·)) =
        (.ok { a with problems := [] }, []) ∧
      List.Forall₂ (Unusable fs) (args.filter (Skipped fs ·)) a.problems ∧
      Settled fs args a ∧ a.problems.length = 2 ∧ a.className = "B" ∧
      a.output = some ⟨.relative, ["b.py"]⟩ := by
  intro fs args
  have hparse : (parse fs args).1 = .ok
      { stages := [⟨"b.frag", .fragment, ""⟩, ⟨"a.vert", .vertex, ";"⟩],
        output := some ⟨.relative, ["b.py"]⟩,
        className := "B",
        problems := [.refused "-x" "unknown argument",
          .refused "-name=np"
            ("the shader name must be a valid identifier that the " ++
              "generated module does not import")] } := by
    decide +kernel
  obtain ⟨hfilter, hproblems, -, -, -, hsettled⟩ := parse_composes hparse
  exact ⟨_, hparse, hfilter, hproblems, hsettled, rfl, rfl, rfl⟩

end ShaderBindings.Arguments
