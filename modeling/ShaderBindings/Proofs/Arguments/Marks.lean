import ShaderBindings.Proofs.Arguments.Composition

/-!
# Arguments — Marks

A flag can be marked by a dash or by a slash. With a slash it might be the path
of a file, so there is a look at the files first. Where there is none, both
marks come to the same, except that a text too long for a name cannot be looked
for: with a slash it is skipped then, whatever it asks for.
-/

namespace ShaderBindings.Arguments

open File

variable {fs : System} {arg other option key value path : String}
variable {requests : List Request} {problems others : List Problem}
variable {kind : StageKind} {request : Request} {problem : Problem} {e : Error}

/-! ## Arguments that come to the same -/

/-- Two arguments are both used for one request, both skipped, or both end
everything with one error. -/
inductive SameVerdict (fs : System) (arg other : String) : Prop
  | used {request : Request} (h : Usable fs arg request)
      (h' : Usable fs other request)
  | skipped (h : Skipped fs arg) (h' : Skipped fs other)
  | brokenOff {e : Error} (h : BreaksOff fs arg e) (h' : BreaksOff fs other e)

theorem SameVerdict.readAll_eq (h : SameVerdict fs arg other)
    (before after : List String) :
    (readAll fs (before ++ arg :: after)).1 =
        (readAll fs (before ++ other :: after)).1 ∧
      (readAll fs (before ++ arg :: after)).2.length =
        (readAll fs (before ++ other :: after)).2.length := by
  induction before with
  | nil =>
    cases h with
    | used h h' => simp [readAll, h.read_eq, h'.read_eq]
    | skipped h h' =>
      obtain ⟨problem, h⟩ := h
      obtain ⟨problem', h'⟩ := h'
      simp [readAll, h.read_eq, h'.read_eq]
    | brokenOff h h' => simp [readAll, h.read_eq, h'.read_eq]
  | cons first before ih =>
    obtain ⟨hrequests, hproblems⟩ := ih
    cases hfirst : read fs first <;>
      simp [readAll, hfirst, hrequests, hproblems]

/-- What a command line asks for, without the words for its problems. -/
def summary (a : Arguments) : Arguments × Nat :=
  ({ a with problems := [] }, a.problems.length)

/-- Two command lines ask for the same and have as many problems, or they end
with the same error. -/
def Alike (x y : Except Error Arguments × List Problem) : Prop :=
  x.1.map summary = y.1.map summary ∧ x.2.length = y.2.length

/-- The problems are only counted. -/
theorem map_summary_ofRequests (h : problems.length = others.length) :
    (ofRequests requests problems).map summary =
      (ofRequests requests others).map summary := by
  unfold ofRequests
  generalize stagesOf requests = stages
  cases stages with
  | nil => exact congrArg (fun n => Except.ok (_, n)) h
  | cons first rest =>
    cases hpath : (Path.ofText first.path).withSuffix ".py" with
    | error e =>
      simp only [hpath]
      rfl
    | ok path =>
      simp only [hpath]
      exact congrArg (fun n => Except.ok (_, n)) h

theorem SameVerdict.alike (h : SameVerdict fs arg other)
    (before after : List String) :
    Alike (parse fs (before ++ arg :: after))
      (parse fs (before ++ other :: after)) := by
  obtain ⟨hrequests, hproblems⟩ := h.readAll_eq before after
  refine ⟨?_, hproblems⟩
  simp only [parse, hrequests]
  cases (readAll fs (before ++ other :: after)).1 with
  | error e => rfl
  | ok requests => exact map_summary_ofRequests hproblems

/-! ## Flags with the same option -/

theorem IsFlag.not_isFile (h : IsFlag fs arg) : ¬ IsFile fs arg := by
  intro hfile
  cases h.isFlag_eq.symm.trans hfile.isFlag_eq

theorem IsFlag.not_unprobed (h : IsFlag fs arg)
    (hslash : arg.toList.head? = some '/') :
    fs.pathExists (.ofText (trimQuotes arg)) ≠ .error e := by
  intro hprobe
  have hflag := h.isFlag_eq
  rw [isFlag_of_slash hslash, hprobe] at hflag
  cases hflag

section Option

variable (hflag : IsFlag fs arg) (hother : IsFlag fs other)
variable (htail : other.toList.tail = arg.toList.tail)

include htail in
theorem Sets.of_tail (h : Sets arg key value) : Sets other key value := by
  unfold Sets
  rwa [htail]

include hflag hother htail

theorem AsksStage.of_tail (h : AsksStage fs arg path kind) :
    AsksStage fs other path kind := by
  cases h with
  | flag _ hsets hkey => exact .flag hother (hsets.of_tail htail) hkey
  | file hfile _ => exact absurd hfile hflag.not_isFile

theorem Usable.of_tail (h : Usable fs arg request) :
    Usable fs other request := by
  cases h with
  | reload _ hoption => exact .reload hother (htail.trans hoption)
  | embed _ hoption => exact .embed hother (htail.trans hoption)
  | stage hasks hbytes htext =>
    exact .stage (hasks.of_tail hflag hother htail) hbytes htext
  | output _ hsets => exact .output hother (hsets.of_tail htail)
  | className _ hsets hname =>
    exact .className hother (hsets.of_tail htail) hname
  | package _ hsets hname => exact .package hother (hsets.of_tail htail) hname
  | contextVersion _ hsets hwritten hshort =>
    exact .contextVersion hother (hsets.of_tail htail) hwritten hshort

/-- The words for the problem may be others. -/
theorem Unusable.skipped_of_tail (h : Unusable fs arg problem) :
    Skipped fs other := by
  cases h with
  | unknownFlag _ hoption hreload hembed =>
    rw [← htail] at hoption hreload hembed
    exact ⟨_, .unknownFlag hother hoption hreload hembed⟩
  | unknownKey _ hsets hstage hkey =>
    exact ⟨_, .unknownKey hother (hsets.of_tail htail) hstage hkey⟩
  | className _ hsets hname =>
    exact ⟨_, .className hother (hsets.of_tail htail) hname⟩
  | package _ hsets hname =>
    exact ⟨_, .package hother (hsets.of_tail htail) hname⟩
  | contextVersion _ hsets hwritten =>
    exact ⟨_, .contextVersion hother (hsets.of_tail htail) hwritten⟩
  | noStage hfile _ => exact absurd hfile hflag.not_isFile
  | unreadable hasks hbytes =>
    exact ⟨_, .unreadable (hasks.of_tail hflag hother htail) hbytes⟩
  | unprobed hslash hprobe =>
    exact absurd hprobe (hflag.not_unprobed hslash)

theorem BreaksOff.of_tail (h : BreaksOff fs arg e) : BreaksOff fs other e := by
  cases h with
  | notText hasks hbytes htext =>
    exact .notText (hasks.of_tail hflag hother htail) hbytes htext
  | nullInPath hasks hnull =>
    exact .nullInPath (hasks.of_tail hflag hother htail) hnull
  | longNumber _ hsets hwritten hlong =>
    exact .longNumber hother (hsets.of_tail htail) hwritten hlong

/-- Flags with the same option come to the same. -/
theorem sameVerdict_of_tail : SameVerdict fs arg other := by
  rcases judged fs arg with ⟨request, h⟩ | ⟨problem, h⟩ | ⟨e, h⟩
  · exact .used h (h.of_tail hflag hother htail)
  · exact .skipped ⟨problem, h⟩ (h.skipped_of_tail hflag hother htail)
  · exact .brokenOff h (h.of_tail hflag hother htail)

end Option

/-! ## Dashes and slashes -/

/-- The option marked by a dash. -/
def dashed (option : String) : String :=
  "-" ++ option

/-- The option marked by a slash, which may be a path. -/
def slashed (option : String) : String :=
  "/" ++ option

theorem toList_dashed (option : String) :
    (dashed option).toList = '-' :: option.toList := by
  simp [dashed]

theorem toList_slashed (option : String) :
    (slashed option).toList = '/' :: option.toList := by
  simp [slashed]

theorem trimQuotes_slashed (option : String) :
    trimQuotes (slashed option) = slashed option := by
  simp [trimQuotes, toList_slashed]

theorem sameVerdict_of_absent
    (h : fs.pathExists (.ofText (slashed option)) = .ok false) :
    SameVerdict fs (dashed option) (slashed option) := by
  refine sameVerdict_of_tail (.inl ?_) (.inr ⟨?_, ?_⟩) ?_
  · rw [toList_dashed, List.head?_cons]
  · rw [toList_slashed, List.head?_cons]
  · rwa [trimQuotes_slashed]
  · rw [toList_dashed, toList_slashed, List.tail_cons, List.tail_cons]

/-- What cannot be looked for is skipped as a file that cannot be read. -/
theorem unusable_slashed (h : fs.pathExists (.ofText (slashed option)) = .error e) :
    Unusable fs (slashed option) (.unreadable
      { cause := .nameTooLong, path := (Path.ofText (slashed option)).text }) := by
  obtain rfl := System.eq_of_pathExists_error h
  refine .unprobed ?_ ?_
  · rw [toList_slashed, List.head?_cons]
  · rwa [trimQuotes_slashed]

/-- Only an argument that is skipped leaves a problem. -/
theorem skipped_of_length_eq_one (h : (parse fs [arg]).2.length = 1) :
    Skipped fs arg := by
  rcases judged fs arg with ⟨request, hused⟩ | hskipped | ⟨e, hbreak⟩
  · simp [parse, readAll, hused.read_eq] at h
  · exact hskipped
  · simp [parse, readAll, hbreak.read_eq] at h

/-! ## Names that are too long -/

theorem pieces_slashed (hslash : '/' ∉ option.toList) :
    pieces (slashed option) = ["", option] := by
  have hnil : '/' ∉ ([] : List Char) := List.not_mem_nil
  have hsplit :=
    List.splitOn_append_cons_self_of_not_mem hnil option.toList
  rw [List.nil_append, List.splitOn_eq_singleton hslash] at hsplit
  simp [pieces, toList_slashed, hsplit]

theorem rootOf_slashed (hslash : '/' ∉ option.toList) :
    rootOf (slashed option).toList = .slash := by
  rw [toList_slashed]
  cases hlist : option.toList with
  | nil => rfl
  | cons c cs =>
    have hc : c ≠ '/' := by
      rintro rfl
      simp [hlist] at hslash
    simp [rootOf, hc]

section Long

variable (hname : maxNameBytes < option.utf8ByteSize)

include hname

theorem ne_of_long {name : String} (h : name.utf8ByteSize ≤ maxNameBytes) :
    option ≠ name := by
  rintro rfl
  omega

theorem walk_of_long (fs : System) (links : Nat) :
    fs.walk .toRead (links + 1) [] ["", option] = .error .nameTooLong := by
  have hempty : option ≠ "" := ne_of_long hname (by decide)
  have hdot : option ≠ "." := ne_of_long hname (by decide)
  have hdots : option ≠ ".." := ne_of_long hname (by decide)
  simp [System.walk, System.walkNames, System.entryAt, hempty, hdot, hdots,
    hname]

/-- One name that is too long, with a slash before it, cannot be looked for. -/
theorem pathExists_slashed_of_long (fs : System)
    (hslash : '/' ∉ option.toList) (hnull : '\x00' ∉ option.toList)
    (hpath : option.utf8ByteSize < maxPathBytes) :
    fs.pathExists (.ofText (slashed option)) = .error (.file
      { cause := .nameTooLong, path := slashed option }) := by
  have hempty : option ≠ "" := ne_of_long hname (by decide)
  have hdot : option ≠ "." := ne_of_long hname (by decide)
  have htext : (Path.ofText (slashed option)).text = slashed option := by
    rw [Path.ofText, rootOf_slashed hslash, pieces_slashed hslash]
    simp [Path.text, Root.text, slashed, hempty, hdot]
  have hread : hasNull (slashed option) = false := by
    simp [hasNull, toList_slashed, hnull]
  have hlocate : fs.locate .toRead (slashed option) = .error .nameTooLong := by
    have hsize : ¬ (slashed option).utf8ByteSize > maxPathBytes := by
      rw [slashed, String.utf8ByteSize_append]
      have : "/".utf8ByteSize = 1 := by decide
      omega
    have hstart : fs.start (slashed option) = [] := by
      simp [System.start, toList_slashed]
    rw [System.locate, if_neg (by simp [slashed]), if_neg hsize, hstart,
      pieces_slashed hslash]
    exact walk_of_long hname fs 39
  simp [System.pathExists, System.entryOf?, htext, hread, hlocate,
    System.meansAbsent, System.refuse, Except.map]

end Long

/-- Where there is no file of the name with the slash, a dash and a slash mark
the same flag in every command line, if there can be such a name or the flag is
skipped anyway, and only then. What is too long for a name is skipped with the
slash, as a file that cannot be read. -/
theorem parse_marks_iff
    (habsent : fs.pathExists (.ofText (slashed option)) ≠ .ok true) :
    ((∀ before after, Alike (parse fs (before ++ dashed option :: after))
        (parse fs (before ++ slashed option :: after))) ↔
      fs.pathExists (.ofText (slashed option)) = .ok false ∨
        Skipped fs (dashed option)) ∧
    (fs.pathExists (.ofText (slashed option)) ≠ .ok false →
      Unusable fs (slashed option) (.unreadable
        { cause := .nameTooLong,
          path := (Path.ofText (slashed option)).text })) := by
  cases hprobe : fs.pathExists (.ofText (slashed option)) with
  | ok found =>
    cases found with
    | true => exact absurd hprobe habsent
    | false =>
      refine ⟨⟨fun _ => .inl rfl, fun _ before after => ?_⟩, absurd rfl⟩
      exact (sameVerdict_of_absent hprobe).alike before after
  | error e =>
    have hslashed := unusable_slashed hprobe
    refine ⟨⟨fun halike => .inr ?_, fun h before after => ?_⟩,
      fun _ => hslashed⟩
    · have hlength := (halike [] []).2
      refine skipped_of_length_eq_one (hlength.trans ?_)
      simp [parse, readAll, hslashed.read_eq]
    · have hdashed := h.resolve_left (by simp)
      exact (SameVerdict.skipped hdashed ⟨_, hslashed⟩).alike before after

/-! ## An output with a long name -/

/-- The option for an output whose name is just so many letters. -/
def outputOption (n : Nat) : String :=
  "out=" ++ String.ofList (List.replicate n 'a')

theorem toList_outputOption (n : Nat) :
    (outputOption n).toList = ['o', 'u', 't', '='] ++ List.replicate n 'a' := by
  simp [outputOption]

theorem utf8ByteSize_outputOption (n : Nat) :
    (outputOption n).utf8ByteSize = 4 + n := by
  rw [outputOption, String.utf8ByteSize_append]
  congr 1
  induction n with
  | zero => rfl
  | succ n ih =>
    rw [List.replicate_succ', String.ofList_append,
      String.utf8ByteSize_append, ih]
    rfl

theorem usable_dashed_outputOption (fs : System) (n : Nat) :
    Usable fs (dashed (outputOption n))
      (.output (.ofText (.ofList (List.replicate n 'a')))) := by
  refine .output (.inl ?_) ⟨List.replicate n 'a', ?_, by decide, ?_⟩
  · rw [toList_dashed, List.head?_cons]
  · simp [toList_dashed, toList_outputOption]
  · cases n <;> simp [trimQuotes, List.replicate_succ]

theorem pathExists_outputOption (fs : System) {n : Nat}
    (hname : maxNameBytes < 4 + n) (hpath : 4 + n < maxPathBytes) :
    fs.pathExists (.ofText (slashed (outputOption n))) = .error (.file
      { cause := .nameTooLong, path := slashed (outputOption n) }) := by
  rw [← utf8ByteSize_outputOption n] at hname hpath
  refine pathExists_slashed_of_long hname fs ?_ ?_ hpath
  all_goals simp [toList_outputOption]

/-- With 252 letters, the argument is too long for a name. -/
theorem parse_marks_iff_long :
    let fs : System := {}
    let option := outputOption 252
    fs.pathExists (.ofText (slashed option)) ≠ .ok true ∧
      Usable fs (dashed option)
        (.output (.ofText (.ofList (List.replicate 252 'a')))) ∧
      Skipped fs (slashed option) ∧
      ¬ ∀ before after, Alike (parse fs (before ++ dashed option :: after))
        (parse fs (before ++ slashed option :: after)) := by
  intro fs option
  have hprobe := pathExists_outputOption fs (n := 252) (by decide) (by decide)
  have habsent : fs.pathExists (.ofText (slashed option)) ≠ .ok true := by
    rw [hprobe]
    nofun
  have hunknown : fs.pathExists (.ofText (slashed option)) ≠ .ok false := by
    rw [hprobe]
    nofun
  have hdashed := usable_dashed_outputOption fs 252
  obtain ⟨hiff, hslashed⟩ := parse_marks_iff habsent
  refine ⟨habsent, hdashed, ⟨_, hslashed hunknown⟩, fun halike => ?_⟩
  obtain ⟨problem, hskipped⟩ := (hiff.mp halike).resolve_left hunknown
  exact absurd (hskipped.read_eq.symm.trans hdashed.read_eq) nofun

end ShaderBindings.Arguments
