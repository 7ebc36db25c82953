import ShaderBindings.Command
import ShaderBindings.Proofs.Arguments.Verdict

/-!
# Arguments — Reading

What reading a whole command line gives and logs. Arguments that are skipped
leave one problem each, and the others are read as if they were not there. Only
an argument that breaks off keeps a command line from being read.
-/

namespace ShaderBindings.Arguments

open File

variable {σ : Type} {fs : System} {arg : String} {args before after : List String}
variable {requests : List Request} {problems : List Problem}

/-! ## One after the other -/

/-- The arguments are read to the end: the used ones have these requests, and
the skipped ones these problems. -/
inductive ReadsAll (fs : System) :
    List String → List Request → List Problem → Prop
  | nil : ReadsAll fs [] [] []
  | used {arg : String} {args : List String} {request : Request}
      {requests : List Request} {problems : List Problem}
      (h : Usable fs arg request) (hrest : ReadsAll fs args requests problems) :
    ReadsAll fs (arg :: args) (request :: requests) problems
  | skipped {arg : String} {args : List String} {problem : Problem}
      {requests : List Request} {problems : List Problem}
      (h : Unusable fs arg problem)
      (hrest : ReadsAll fs args requests problems) :
    ReadsAll fs (arg :: args) requests (problem :: problems)

theorem ReadsAll.readAll_eq (h : ReadsAll fs args requests problems) :
    readAll fs args = (.ok requests, problems) := by
  induction h with
  | nil => rfl
  | used h _ ih => simp [readAll, h.read_eq, ih, Except.map]
  | skipped h _ ih => simp [readAll, h.read_eq, ih]

/-- What comes after an argument that breaks off is not read. -/
theorem ReadsAll.readAll_append {e : Error}
    (h : ReadsAll fs before requests problems) (hbreak : BreaksOff fs arg e)
    (after : List String) :
    readAll fs (before ++ arg :: after) = (.error e, problems) := by
  induction h with
  | nil => simp [readAll, hbreak.read_eq]
  | used h _ ih => simp [readAll, h.read_eq, ih, Except.map]
  | skipped h _ ih => simp [readAll, h.read_eq, ih]

/-- All arguments are read, or those before one that breaks off. -/
theorem readsAll_or_breaksOff (fs : System) (args : List String) :
    (∃ requests problems, ReadsAll fs args requests problems) ∨
      ∃ before arg after e requests problems, args = before ++ arg :: after ∧
        ReadsAll fs before requests problems ∧ BreaksOff fs arg e := by
  induction args with
  | nil => exact .inl ⟨[], [], .nil⟩
  | cons arg rest ih =>
    rcases judged fs arg with ⟨request, h⟩ | ⟨problem, h⟩ | ⟨e, h⟩
    · rcases ih with ⟨requests, problems, hrest⟩ |
        ⟨before, arg', after, e, requests, problems, rfl, hrest, hbreak⟩
      · exact .inl ⟨_, _, .used h hrest⟩
      · exact .inr ⟨arg :: before, arg', after, e, _, _, rfl, .used h hrest,
          hbreak⟩
    · rcases ih with ⟨requests, problems, hrest⟩ |
        ⟨before, arg', after, e, requests, problems, rfl, hrest, hbreak⟩
      · exact .inl ⟨_, _, .skipped h hrest⟩
      · exact .inr ⟨arg :: before, arg', after, e, _, _, rfl, .skipped h hrest,
          hbreak⟩
    · exact .inr ⟨[], arg, rest, e, [], [], rfl, .nil, h⟩

theorem ReadsAll.not_breaksOff (h : ReadsAll fs args requests problems) :
    ∀ arg ∈ args, ∀ e, ¬ BreaksOff fs arg e := by
  induction h with
  | nil => simp
  | used h _ ih =>
    refine List.forall_mem_cons.mpr ⟨fun e hbreak => ?_, ih⟩
    cases h.read_eq.symm.trans hbreak.read_eq
  | skipped h _ ih =>
    refine List.forall_mem_cons.mpr ⟨fun e hbreak => ?_, ih⟩
    cases h.read_eq.symm.trans hbreak.read_eq

/-! ## The output that is not given -/

/-- A walk along names that say nothing stays where it is, in a directory. -/
theorem walkNames_of_blank {purpose : Purpose} {here : Location}
    {follow : Location → List String → Except Cause Found}
    {names : List String} (h : ∀ name ∈ names, name = "" ∨ name = ".")
    (hne : names ≠ []) :
    fs.walkNames purpose follow here names = .error .notDirectory ∨
      fs.walkNames purpose follow here names =
        .ok ⟨here, some .directory⟩ := by
  induction names with
  | nil => exact absurd rfl hne
  | cons name rest ih =>
    obtain ⟨hname, hrest⟩ := List.forall_mem_cons.mp h
    have hblank : (name == "" || name == ".") = true := by
      simpa using hname
    by_cases hhere : fs.entryAt here = some .directory
    · simp only [System.walkNames, hhere, bne_self_eq_false, hblank,
        Bool.false_eq_true, if_false, if_true]
      cases rest with
      | nil => simp [System.walkNames, hhere]
      | cons next others => exact ih hrest (List.cons_ne_nil next others)
    · left
      simp [System.walkNames, hhere]

/-- A path without a name is that of a directory, and no text is read from
it. -/
theorem names_ne_nil_of_readBytes {p : Path} {bytes : List UInt8}
    (h : fs.readBytes p = .ok bytes) : p.names ≠ [] := by
  intro hnames
  obtain ⟨root, names⟩ := p
  subst hnames
  have hnull : hasNull (Path.text ⟨root, []⟩) = false := by
    cases root <;> rfl
  -- it is a directory that the path leads to, whatever the path starts with
  have hlocate : ∃ here names, (∀ name ∈ names, name = "" ∨ name = ".") ∧
      names ≠ [] ∧ fs.locate .toRead (Path.text ⟨root, []⟩) =
        fs.walk .toRead maxLinks here names := by
    cases root with
    | relative => exact ⟨fs.start ".", ["."], by simp, by simp, rfl⟩
    | slash => exact ⟨fs.start "/", ["", ""], by simp, by simp, rfl⟩
    | doubleSlash => exact ⟨fs.start "//", ["", "", ""], by simp, by simp, rfl⟩
  obtain ⟨here, names, hblank, hne, hlocate⟩ := hlocate
  rw [maxLinks, System.walk] at hlocate
  simp only [System.readBytes, hnull, Bool.false_eq_true, if_false,
    hlocate] at h
  rcases walkNames_of_blank hblank hne with hwalk | hwalk
  · rw [hwalk] at h
    cases h
  · rw [hwalk] at h
    cases h

theorem Usable.names_ne_nil {stage : Stage}
    (h : Usable fs arg (.stage stage)) :
    (Path.ofText stage.path).names ≠ [] := by
  cases h with
  | stage _ hbytes _ => exact names_ne_nil_of_readBytes hbytes

/-- Every stage that is asked for comes from an argument. -/
theorem ReadsAll.exists_usable (h : ReadsAll fs args requests problems) :
    ∀ stage ∈ stagesOf requests,
      ∃ arg ∈ args, Usable fs arg (.stage stage) := by
  induction h with
  | nil => simp [stagesOf]
  | @used arg args request requests problems h _ ih =>
    have hrest : ∀ stage ∈ stagesOf requests,
        ∃ other ∈ arg :: args, Usable fs other (.stage stage) := by
      intro stage hstage
      obtain ⟨other, hmem, husable⟩ := ih stage hstage
      exact ⟨other, List.mem_cons_of_mem _ hmem, husable⟩
    cases request with
    | stage first =>
      exact List.forall_mem_cons.mpr ⟨⟨arg, List.mem_cons_self, h⟩, hrest⟩
    | reload _ | output _ | className _ | package _ | contextVersion _ =>
      exact hrest
  | skipped _ _ ih =>
    intro stage hstage
    obtain ⟨other, hmem, husable⟩ := ih stage hstage
    exact ⟨other, List.mem_cons_of_mem _ hmem, husable⟩

theorem ReadsAll.names_ne_nil (h : ReadsAll fs args requests problems) :
    ∀ stage ∈ stagesOf requests, (Path.ofText stage.path).names ≠ [] := by
  intro stage hstage
  obtain ⟨arg, -, husable⟩ := h.exists_usable stage hstage
  exact husable.names_ne_nil

theorem withSuffix_of_names {p : Path} (h : p.names ≠ []) (suffix : String) :
    ∃ path, p.withSuffix suffix = .ok path := by
  unfold Path.withSuffix
  rw [List.getLast?_eq_some_getLast h]
  exact ⟨_, rfl⟩

/-! ## What requests amount to -/

namespace Request

/-- The value that a request gives to the setting of its kind. -/
def reload? : Request → Option Bool
  | .reload b => some b
  | _ => none

@[inherit_doc reload?]
def output? : Request → Option Path
  | .output p => some p
  | _ => none

@[inherit_doc reload?]
def className? : Request → Option String
  | .className n => some n
  | _ => none

@[inherit_doc reload?]
def package? : Request → Option String
  | .package n => some n
  | _ => none

@[inherit_doc reload?]
def contextVersion? : Request → Option Version
  | .contextVersion v => some v
  | _ => none

end Request

/-- The class name that the first stage suggests. -/
def suggestedName (stages : List Stage) : String :=
  (stages.head?.map fun s => defaultClassName s.path).getD "Shader"

theorem suggestedName_cons (first : Stage) (rest : List Stage) :
    suggestedName (first :: rest) = defaultClassName first.path :=
  Option.getD_some

/-- The output is the path that is given, or else that of the first stage with
another suffix. Without a stage there is none. -/
def OutputIs (given : Option Path) (stages : List Stage)
    (output : Option Path) : Prop :=
  match stages with
  | [] => output = given
  | first :: _ => ∃ path, (Path.ofText first.path).withSuffix ".py" = .ok path ∧
      output = some (given.getD path)

/-- Of each setting the last value counts that is given to it. -/
structure AmountTo (requests : List Request) (problems : List Problem)
    (a : Arguments) : Prop where
  stages : a.stages = stagesOf requests
  problems : a.problems = problems
  reload : a.reload = (last requests Request.reload?).getD false
  package : a.package = (last requests Request.package?).getD "Shaders"
  contextVersion :
    a.contextVersion = (last requests Request.contextVersion?).getD ⟨3, 0⟩
  className : a.className =
    (last requests Request.className?).getD (suggestedName a.stages)
  output : OutputIs (last requests Request.output?) a.stages a.output

theorem amountTo_of_ofRequests {a : Arguments}
    (h : ofRequests requests problems = .ok a) :
    AmountTo requests problems a := by
  unfold ofRequests at h
  generalize hstages : stagesOf requests = stages at h
  cases stages with
  | nil =>
    cases h
    exact ⟨hstages.symm, rfl, rfl, rfl, rfl, rfl, Option.or_none⟩
  | cons first rest =>
    cases hpath : (Path.ofText first.path).withSuffix ".py" with
    | error e =>
      simp only [hpath] at h
      cases h
    | ok path =>
      simp only [hpath] at h
      cases h
      refine ⟨hstages.symm, rfl, rfl, rfl, rfl, ?_, path, hpath,
        Option.or_some⟩
      simp only [suggestedName_cons, Option.map_some, Option.getD_some]
      rfl

/-- Whatever was read amounts to something. -/
theorem ofRequests_ok (problems : List Problem)
    (h : ∀ stage ∈ stagesOf requests, (Path.ofText stage.path).names ≠ []) :
    ∃ a, ofRequests requests problems = .ok a ∧ a.problems = problems := by
  unfold ofRequests
  cases hstages : stagesOf requests with
  | nil => exact ⟨_, rfl, rfl⟩
  | cons first rest =>
    have hfirst := h first (hstages ▸ List.mem_cons_self)
    obtain ⟨path, hpath⟩ := withSuffix_of_names hfirst ".py"
    simp only [hpath]
    exact ⟨_, rfl, rfl⟩

/-! ## Whole command lines -/

theorem parse_eq_ok_iff {a : Arguments} :
    (parse fs args).1 = .ok a ↔ ∃ requests problems,
      ReadsAll fs args requests problems ∧
        ofRequests requests problems = .ok a := by
  constructor
  · intro h
    rcases readsAll_or_breaksOff fs args with ⟨requests, problems, hread⟩ |
      ⟨before, arg, after, e, requests, problems, rfl, hread, hbreak⟩
    · refine ⟨requests, problems, hread, ?_⟩
      rwa [parse, hread.readAll_eq] at h
    · rw [parse, hread.readAll_append hbreak] at h
      cases h
  · rintro ⟨requests, problems, hread, h⟩
    rw [parse, hread.readAll_eq]
    exact h

theorem Problem.level_entry (problem : Problem) :
    problem.entry.level = .warning ∨ problem.entry.level = .error := by
  cases problem with
  | refused argument reason => exact .inl rfl
  | unreadable fault => exact .inr rfl

theorem readArguments_eq (fs : System) (args : List String) (s : Session σ) :
    Command.readArguments args (s, fs) =
      ((parse fs args).1,
        { s with log := s.log ++ (parse fs args).2.map Problem.entry }, fs) := by
  cases h : parse fs args with
  | mk result problems =>
    simp only [Command.readArguments, Bind.bind, Act.bind, Act.get, h]
    cases result with
    | ok a | error e => rfl

/-- A command line is read exactly if none of its arguments breaks off. Then
every argument that cannot be used has left one problem and one log entry, in
order, and the command line asks for what the others ask for. Otherwise the
problems of the arguments before the one that broke off are logged. -/
theorem readArguments_ok_iff (fs : System) (args : List String)
    (s : Session σ) :
    ∃ result problems,
      Command.readArguments args (s, fs) =
        (result, { s with log := s.log ++ problems.map Problem.entry }, fs) ∧
      (∀ problem ∈ problems, problem.entry.level = .warning ∨
        problem.entry.level = .error) ∧
      ((∃ a, result = .ok a) ↔ ∀ arg ∈ args, ∀ e, ¬ BreaksOff fs arg e) ∧
      (∀ a, result = .ok a → a.problems = problems ∧ ∃ requests,
        ReadsAll fs args requests problems ∧
        ofRequests requests problems = .ok a) ∧
      ∀ e, result = .error e → ∃ before arg after requests,
        args = before ++ arg :: after ∧ ReadsAll fs before requests problems ∧
        BreaksOff fs arg e := by
  refine ⟨_, _, readArguments_eq fs args s, fun p _ => p.level_entry, ?_⟩
  rcases readsAll_or_breaksOff fs args with ⟨requests, problems, h⟩ |
    ⟨before, arg, after, e, requests, problems, rfl, h, hbreak⟩
  · obtain ⟨a, ha, hproblems⟩ := ofRequests_ok problems h.names_ne_nil
    have hparse : parse fs args = (.ok a, problems) := by
      simp [parse, h.readAll_eq, Except.bind, ha]
    rw [hparse]
    refine ⟨⟨fun _ => h.not_breaksOff, fun _ => ⟨a, rfl⟩⟩, ?_, ?_⟩
    · rintro _ ⟨⟩
      exact ⟨hproblems, requests, h, ha⟩
    · rintro e ⟨⟩
  · have hparse : parse fs (before ++ arg :: after) = (.error e, problems) := by
      simp [parse, h.readAll_append hbreak, Except.bind]
    rw [hparse]
    refine ⟨⟨?_, fun hnone => ?_⟩, ?_, ?_⟩
    · rintro ⟨a, ⟨⟩⟩
    · exact absurd hbreak (hnone arg (by simp) e)
    · rintro a ⟨⟩
    · rintro _ ⟨⟩
      exact ⟨before, arg, after, requests, rfl, h, hbreak⟩

/-- A stage whose file is no text ends the reading of a command line. -/
example :
    let fs : System := { entries := [(["a.vert"], .file [0xff])] }
    (parse fs ["a.vert"]).1 =
      .error (.decoding ⟨[0xff], 0, .invalidStart⟩) := by
  decide +kernel

end ShaderBindings.Arguments
