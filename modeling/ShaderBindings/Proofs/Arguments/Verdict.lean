import Mathlib.Data.List.TakeDrop
import Mathlib.Data.List.TakeWhile
import ShaderBindings.Arguments.Flag
import ShaderBindings.Proofs.File.Refusals
import ShaderBindings.Proofs.Version

/-!
# Arguments — Verdicts

What can become of an argument. It is used, or it is skipped for one of the
reasons that command lines are expected to give, or it breaks off the reading of
all others: a file of a stage that is no text, a path that no file can have, and
a version whose numbers are too long.
-/

namespace ShaderBindings.Arguments

open File

variable {fs : System} {arg key value path : String} {kind : StageKind}

/-! ## Kinds of arguments -/

/-- The argument is a flag: it has a dash at its front, or a slash with no file
of that name. -/
def IsFlag (fs : System) (arg : String) : Prop :=
  arg.toList.head? = some '-' ∨
    arg.toList.head? = some '/' ∧
      fs.pathExists (.ofText (trimQuotes arg)) = .ok false

/-- The argument is the path of a file. -/
def IsFile (fs : System) (arg : String) : Prop :=
  arg.toList.head? ≠ some '-' ∧
    (arg.toList.head? = some '/' →
      fs.pathExists (.ofText (trimQuotes arg)) = .ok true)

/-- After its mark, the argument has the key, an equals sign, and the value,
maybe in quotes. -/
def Sets (arg key value : String) : Prop :=
  ∃ text, arg.toList.tail = key.toList ++ '=' :: text ∧ '=' ∉ key.toList ∧
    trimQuotes (.ofList text) = value

/-- The argument asks for the stage in a file. -/
inductive AsksStage (fs : System) (arg : String) : String → StageKind → Prop
  | flag {key value : String} {kind : StageKind} (hflag : IsFlag fs arg)
      (hsets : Sets arg key value) (hkey : stageFlags.lookup key = some kind) :
    AsksStage fs arg value kind
  | file {kind : StageKind} (hfile : IsFile fs arg)
      (hkind : stageOfPath? (trimQuotes arg) = some kind) :
    AsksStage fs arg (trimQuotes arg) kind

/-- The keys of flags that are not those of stages. -/
def settingKeys : List String :=
  ["out", "name", "namespace", "contextVersion"]

/-! ## Verdicts -/

/-- The argument is used, for a request. -/
inductive Usable (fs : System) (arg : String) : Request → Prop
  | reload (hflag : IsFlag fs arg) (hoption : arg.toList.tail = ['r']) :
    Usable fs arg (.reload true)
  | embed (hflag : IsFlag fs arg) (hoption : arg.toList.tail = ['s']) :
    Usable fs arg (.reload false)
  | stage {path text : String} {kind : StageKind} {bytes : List UInt8}
      (hasks : AsksStage fs arg path kind)
      (hbytes : fs.readBytes (.ofText path) = .ok bytes)
      (htext : Text.Utf8.decode bytes = .ok text) :
    Usable fs arg (.stage ⟨path, kind, Text.normalizeLineEnds text⟩)
  | output {value : String} (hflag : IsFlag fs arg)
      (hsets : Sets arg "out" value) :
    Usable fs arg (.output (.ofText value))
  | className {value : String} (hflag : IsFlag fs arg)
      (hsets : Sets arg "name" value) (hname : isClassName value = true) :
    Usable fs arg (.className value)
  | package {value : String} (hflag : IsFlag fs arg)
      (hsets : Sets arg "namespace" value)
      (hname : Text.isDottedName value = true) :
    Usable fs arg (.package value)
  | contextVersion {value : String} {major minor : List Char}
      {more : List (List Char)} (hflag : IsFlag fs arg)
      (hsets : Sets arg "contextVersion" value)
      (hwritten : Version.Written value major minor more)
      (hshort : Version.firstLong? [major, minor] = none) :
    Usable fs arg
      (.contextVersion ⟨Text.digitsValue major, Text.digitsValue minor⟩)

/-- The argument cannot be used, and is skipped. -/
inductive Unusable (fs : System) (arg : String) : Problem → Prop
  | unknownFlag (hflag : IsFlag fs arg) (hoption : '=' ∉ arg.toList.tail)
      (hreload : arg.toList.tail ≠ ['r']) (hembed : arg.toList.tail ≠ ['s']) :
    Unusable fs arg (.refused arg "unknown argument")
  | unknownKey {key value : String} (hflag : IsFlag fs arg)
      (hsets : Sets arg key value) (hstage : stageFlags.lookup key = none)
      (hkey : key ∉ settingKeys) :
    Unusable fs arg (.refused arg "unknown argument")
  | className {value : String} (hflag : IsFlag fs arg)
      (hsets : Sets arg "name" value) (hname : isClassName value = false) :
    Unusable fs arg (.refused arg
      ("the shader name must be a valid identifier that the " ++
        "generated module does not import"))
  | package {value : String} (hflag : IsFlag fs arg)
      (hsets : Sets arg "namespace" value)
      (hname : Text.isDottedName value = false) :
    Unusable fs arg (.refused arg "the namespace must be a dotted name")
  | contextVersion {value : String} (hflag : IsFlag fs arg)
      (hsets : Sets arg "contextVersion" value)
      (hwritten : ∀ major minor more,
        ¬ Version.Written value major minor more) :
    Unusable fs arg (.refused value "expected a version like 3.3")
  | noStage (hfile : IsFile fs arg)
      (hkind : stageOfPath? (trimQuotes arg) = none) :
    Unusable fs arg (.refused (trimQuotes arg)
      "unable to determine the shader stage of the file")
  | unreadable {path : String} {kind : StageKind} {fault : Fault}
      (hasks : AsksStage fs arg path kind)
      (hbytes : fs.readBytes (.ofText path) = .error (.file fault)) :
    Unusable fs arg (.unreadable fault)
  /-- It cannot even be found out whether there is a file of that name. -/
  | unprobed {fault : Fault} (hslash : arg.toList.head? = some '/')
      (hprobe : fs.pathExists (.ofText (trimQuotes arg)) =
        .error (.file fault)) :
    Unusable fs arg (.unreadable fault)

/-- The argument ends the reading of all arguments. -/
inductive BreaksOff (fs : System) (arg : String) : Error → Prop
  | notText {path : String} {kind : StageKind} {bytes : List UInt8}
      {fault : Text.Utf8.DecodeError} (hasks : AsksStage fs arg path kind)
      (hbytes : fs.readBytes (.ofText path) = .ok bytes)
      (htext : Text.Utf8.decode bytes = .error fault) :
    BreaksOff fs arg (.decoding fault)
  | nullInPath {path : String} {kind : StageKind}
      (hasks : AsksStage fs arg path kind)
      (hnull : hasNull (Path.ofText path).text = true) :
    BreaksOff fs arg .nullInPath
  | longNumber {value : String} {major minor digits : List Char}
      {more : List (List Char)} (hflag : IsFlag fs arg)
      (hsets : Sets arg "contextVersion" value)
      (hwritten : Version.Written value major minor more)
      (hlong : Version.firstLong? [major, minor] = some digits) :
    BreaksOff fs arg (.tooManyDigits digits.length)

/-- The argument is used, skipped, or ends everything. -/
def Judged (fs : System) (arg : String) : Prop :=
  (∃ request, Usable fs arg request) ∨ (∃ problem, Unusable fs arg problem) ∨
    ∃ e, BreaksOff fs arg e

/-! ## Flags and files -/

theorem isFlag_of_slash (h : arg.toList.head? = some '/') :
    isFlag fs arg =
      (fs.pathExists (.ofText (trimQuotes arg))).map (!·) := by
  simp [isFlag, h]

theorem IsFlag.isFlag_eq (h : IsFlag fs arg) : isFlag fs arg = .ok true := by
  rcases h with hdash | ⟨hslash, hprobe⟩
  · simp [isFlag, hdash]
  · rw [isFlag_of_slash hslash, hprobe]
    rfl

theorem IsFile.isFlag_eq (h : IsFile fs arg) : isFlag fs arg = .ok false := by
  rcases h with ⟨hdash, hprobe⟩
  by_cases hslash : arg.toList.head? = some '/'
  · rw [isFlag_of_slash hslash, hprobe hslash]
    rfl
  · unfold isFlag
    split
    next h => exact absurd h hslash
    next h => exact absurd h hdash
    next => rfl

/-- An argument is a flag or a file, unless looking for the file fails. -/
theorem isFlag_or_isFile (fs : System) (arg : String) :
    IsFlag fs arg ∨ IsFile fs arg ∨ ∃ fault, arg.toList.head? = some '/' ∧
      fs.pathExists (.ofText (trimQuotes arg)) = .error (.file fault) := by
  by_cases hdash : arg.toList.head? = some '-'
  · exact .inl (.inl hdash)
  by_cases hslash : arg.toList.head? = some '/'
  · cases hprobe : fs.pathExists (.ofText (trimQuotes arg)) with
    | ok found =>
      cases found with
      | true => exact .inr (.inl ⟨hdash, fun _ => hprobe⟩)
      | false => exact .inl (.inr ⟨hslash, hprobe⟩)
    | error e =>
      obtain ⟨fault, rfl⟩ := System.pathExists_error hprobe
      exact .inr (.inr ⟨fault, hslash, rfl⟩)
  · exact .inr (.inl ⟨hdash, fun h => absurd h hslash⟩)

theorem read_of_flag (h : IsFlag fs arg) :
    read fs arg = .ofExcept (readFlag fs arg) := by
  simp only [read, h.isFlag_eq]
  rfl

theorem read_of_file (h : IsFile fs arg) :
    read fs arg = .ofExcept (readFile fs arg) := by
  simp only [read, h.isFlag_eq]
  rfl

/-! ## Options -/

theorem forall_ne_of_notMem {option : List Char} (h : '=' ∉ option) :
    ∀ c ∈ option, (c != '=') = true := by
  intro c hc
  exact bne_iff_ne.mpr fun heq => h (heq ▸ hc)

theorem splitOption_of_notMem {option : List Char} (h : '=' ∉ option) :
    splitOption option = (.ofList option, none) := by
  have hkey := forall_ne_of_notMem h
  simp only [splitOption, List.span_eq_takeWhile_dropWhile,
    List.takeWhile_eq_self_iff.mpr hkey, List.dropWhile_eq_nil_iff.mpr hkey]

theorem splitOption_append {text : List Char} (h : '=' ∉ key.toList) :
    splitOption (key.toList ++ '=' :: text) =
      (key, some (.ofList text)) := by
  have hkey := forall_ne_of_notMem h
  simp [splitOption, List.span_eq_takeWhile_dropWhile,
    List.takeWhile_append_of_pos hkey, List.dropWhile_append_of_pos hkey]

/-- An option without an equals sign stands for itself; any other sets the key
before the first one. -/
theorem notMem_or_sets (arg : String) :
    '=' ∉ arg.toList.tail ∨ ∃ key value, Sets arg key value := by
  by_cases hmem : '=' ∈ arg.toList.tail
  · obtain ⟨key, text, hoption, hkey⟩ := List.eq_append_cons_of_mem hmem
    exact .inr ⟨.ofList key, _, text, by simpa using hoption,
      by simpa using hkey, rfl⟩
  · exact .inl hmem

/-- What an option without an equals sign asks for. -/
theorem readFlag_of_notMem (fs : System) (h : '=' ∉ arg.toList.tail) :
    readFlag fs arg =
      if arg.toList.tail = ['r'] then .ok (.reload true)
      else if arg.toList.tail = ['s'] then .ok (.reload false)
      else .error (.argument arg "unknown argument") := by
  have hword (letters : List Char) :
      String.ofList arg.toList.tail = .ofList letters ↔
        arg.toList.tail = letters :=
    String.ofList_inj
  rw [readFlag, splitOption_of_notMem h]
  split
  next hr => rw [if_pos ((hword ['r']).mp (congrArg Prod.fst hr))]
  next hs =>
    have hoption := (hword ['s']).mp (congrArg Prod.fst hs)
    rw [if_neg (by simp [hoption]), if_pos hoption]
  next word hr hs heq =>
    obtain rfl : String.ofList arg.toList.tail = word := congrArg Prod.fst heq
    rw [if_neg, if_neg]
    · intro hoption
      exact hs ((hword ['s']).mpr hoption)
    · intro hoption
      exact hr ((hword ['r']).mpr hoption)
  next heq => cases congrArg Prod.snd heq

theorem read_of_sets (hflag : IsFlag fs arg) (h : Sets arg key value) :
    read fs arg = .ofExcept (readSetting fs arg key value) := by
  obtain ⟨text, hoption, hkey, rfl⟩ := h
  rw [read_of_flag hflag]
  simp only [readFlag, hoption, splitOption_append hkey]

theorem lookup_stageFlags_of_mem :
    ∀ key ∈ settingKeys, stageFlags.lookup key = none := by
  decide

theorem readSetting_of_key (fs : System) (arg value : String)
    (hstage : stageFlags.lookup key = none) (hkey : key ∉ settingKeys) :
    readSetting fs arg key value =
      .error (.argument arg "unknown argument") := by
  simp only [settingKeys, List.mem_cons, List.not_mem_nil, or_false,
    not_or] at hkey
  simp [readSetting, hstage, hkey]

/-! ## Stages -/

theorem read_of_asksStage (h : AsksStage fs arg path kind) :
    read fs arg = .ofExcept (readStage fs path kind) := by
  cases h with
  | flag hflag hsets hkey =>
    rw [read_of_sets hflag hsets]
    simp only [readSetting, hkey]
  | file hfile hkind =>
    rw [read_of_file hfile]
    simp only [readFile, stageOfPath, hkind]
    rfl

theorem readStage_of_refused {e : Error}
    (h : fs.readBytes (.ofText path) = .error e) (kind : StageKind) :
    readStage fs path kind = .error e := by
  simp only [readStage, System.readText, h]
  rfl

theorem readStage_of_decode {bytes : List UInt8}
    (h : fs.readBytes (.ofText path) = .ok bytes) (kind : StageKind) :
    readStage fs path kind =
      ((Text.Utf8.decode bytes).mapError Error.decoding).map fun text =>
        .stage ⟨path, kind, Text.normalizeLineEnds text⟩ := by
  simp only [readStage, System.readText, Bind.bind, Except.bind, h]
  cases Text.Utf8.decode bytes with
  | ok text | error fault => rfl

/-! ## Verdicts -/

theorem Usable.read_eq {request : Request} (h : Usable fs arg request) :
    read fs arg = .accepted request := by
  cases h with
  | reload hflag hoption =>
    have hnone : '=' ∉ arg.toList.tail := by simp [hoption]
    rw [read_of_flag hflag, readFlag_of_notMem fs hnone, if_pos hoption]
    rfl
  | embed hflag hoption =>
    have hnone : '=' ∉ arg.toList.tail := by simp [hoption]
    rw [read_of_flag hflag, readFlag_of_notMem fs hnone,
      if_neg (by simp [hoption]), if_pos hoption]
    rfl
  | stage hasks hbytes htext =>
    rw [read_of_asksStage hasks, readStage_of_decode hbytes, htext]
    rfl
  | output hflag hsets =>
    rw [read_of_sets hflag hsets]
    rfl
  | className hflag hsets hname =>
    rw [read_of_sets hflag hsets]
    simp [readSetting, lookup_stageFlags_of_mem "name" (by decide), hname,
      Verdict.ofExcept]
  | package hflag hsets hname =>
    rw [read_of_sets hflag hsets]
    simp [readSetting, lookup_stageFlags_of_mem "namespace" (by decide), hname,
      Verdict.ofExcept]
  | contextVersion hflag hsets hwritten hshort =>
    rw [read_of_sets hflag hsets]
    simp [readSetting, lookup_stageFlags_of_mem "contextVersion" (by decide),
      hwritten.ofText_eq, Version.ofDigits_of_short hshort, Except.map,
      Verdict.ofExcept]

theorem Unusable.read_eq {problem : Problem} (h : Unusable fs arg problem) :
    read fs arg = .skipped problem := by
  cases h with
  | unknownFlag hflag hoption hreload hembed =>
    rw [read_of_flag hflag, readFlag_of_notMem fs hoption, if_neg hreload,
      if_neg hembed]
    rfl
  | unknownKey hflag hsets hstage hkey =>
    rw [read_of_sets hflag hsets, readSetting_of_key fs arg _ hstage hkey]
    rfl
  | className hflag hsets hname =>
    rw [read_of_sets hflag hsets]
    simp [readSetting, lookup_stageFlags_of_mem "name" (by decide), hname,
      Verdict.ofExcept, Verdict.ofError]
  | package hflag hsets hname =>
    rw [read_of_sets hflag hsets]
    simp [readSetting, lookup_stageFlags_of_mem "namespace" (by decide), hname,
      Verdict.ofExcept, Verdict.ofError]
  | contextVersion hflag hsets hwritten =>
    rw [read_of_sets hflag hsets]
    simp [readSetting, lookup_stageFlags_of_mem "contextVersion" (by decide),
      Version.ofText_of_not_written hwritten, Except.map, Verdict.ofExcept,
      Verdict.ofError]
  | noStage hfile hkind =>
    rw [read_of_file hfile]
    simp only [readFile, stageOfPath, hkind]
    rfl
  | unreadable hasks hbytes =>
    rw [read_of_asksStage hasks, readStage_of_refused hbytes]
    rfl
  | unprobed hslash hprobe =>
    simp only [read, isFlag_of_slash hslash, hprobe]
    rfl

theorem BreaksOff.read_eq {e : Error} (h : BreaksOff fs arg e) :
    read fs arg = .aborted e := by
  cases h with
  | notText hasks hbytes htext =>
    rw [read_of_asksStage hasks, readStage_of_decode hbytes, htext]
    rfl
  | nullInPath hasks hnull =>
    have hbytes (path : String) (h : hasNull (Path.ofText path).text = true) :
        fs.readBytes (.ofText path) = .error .nullInPath := if_pos h
    rw [read_of_asksStage hasks, readStage_of_refused (hbytes _ hnull)]
    rfl
  | longNumber hflag hsets hwritten hlong =>
    rw [read_of_sets hflag hsets]
    simp [readSetting, lookup_stageFlags_of_mem "contextVersion" (by decide),
      hwritten.ofText_eq, Version.ofDigits_of_long hlong, Except.map,
      Verdict.ofExcept, Verdict.ofError]

/-- An argument that asks for a stage is used, skipped, or breaks everything
off, depending on the file. -/
theorem AsksStage.judged (h : AsksStage fs arg path kind) : Judged fs arg := by
  cases hbytes : fs.readBytes (.ofText path) with
  | error e =>
    rcases System.readBytes_error hbytes with ⟨hnull, rfl⟩ | ⟨fault, rfl⟩
    · exact .inr (.inr ⟨_, .nullInPath h hnull⟩)
    · exact .inr (.inl ⟨_, .unreadable h hbytes⟩)
  | ok bytes =>
    cases htext : Text.Utf8.decode bytes with
    | ok text => exact .inl ⟨_, .stage h hbytes htext⟩
    | error fault => exact .inr (.inr ⟨_, .notText h hbytes htext⟩)

/-- So does one that sets a version, depending on its numbers. -/
theorem judged_of_contextVersion (hflag : IsFlag fs arg)
    (hsets : Sets arg "contextVersion" value) : Judged fs arg := by
  by_cases hwritten : ∃ major minor more,
      Version.Written value major minor more
  · obtain ⟨major, minor, more, hwritten⟩ := hwritten
    cases hlong : Version.firstLong? [major, minor] with
    | none => exact .inl ⟨_, .contextVersion hflag hsets hwritten hlong⟩
    | some digits =>
      exact .inr (.inr ⟨_, .longNumber hflag hsets hwritten hlong⟩)
  · exact .inr (.inl ⟨_, .contextVersion hflag hsets fun major minor more h =>
      hwritten ⟨major, minor, more, h⟩⟩)

/-- One that gives a value to a key is never without a verdict. -/
theorem judged_of_sets (hflag : IsFlag fs arg) (hsets : Sets arg key value) :
    Judged fs arg := by
  cases hstage : stageFlags.lookup key with
  | some kind => exact AsksStage.judged (.flag hflag hsets hstage)
  | none =>
    by_cases hkey : key ∈ settingKeys
    · simp only [settingKeys, List.mem_cons, List.not_mem_nil, or_false] at hkey
      rcases hkey with rfl | rfl | rfl | rfl
      · exact .inl ⟨_, .output hflag hsets⟩
      · cases hname : isClassName value with
        | true => exact .inl ⟨_, .className hflag hsets hname⟩
        | false => exact .inr (.inl ⟨_, .className hflag hsets hname⟩)
      · cases hname : Text.isDottedName value with
        | true => exact .inl ⟨_, .package hflag hsets hname⟩
        | false => exact .inr (.inl ⟨_, .package hflag hsets hname⟩)
      · exact judged_of_contextVersion hflag hsets
    · exact .inr (.inl ⟨_, .unknownKey hflag hsets hstage hkey⟩)

/-- There is a verdict on every argument. -/
theorem judged (fs : System) (arg : String) : Judged fs arg := by
  rcases isFlag_or_isFile fs arg with hflag | hfile | ⟨fault, hslash, hprobe⟩
  · rcases notMem_or_sets arg with hoption | ⟨key, value, hsets⟩
    · by_cases hreload : arg.toList.tail = ['r']
      · exact .inl ⟨_, .reload hflag hreload⟩
      by_cases hembed : arg.toList.tail = ['s']
      · exact .inl ⟨_, .embed hflag hembed⟩
      exact .inr (.inl ⟨_, .unknownFlag hflag hoption hreload hembed⟩)
    · exact judged_of_sets hflag hsets
  · cases hkind : stageOfPath? (trimQuotes arg) with
    | some kind => exact AsksStage.judged (.file hfile hkind)
    | none => exact .inr (.inl ⟨_, .noStage hfile hkind⟩)
  · exact .inr (.inl ⟨_, .unprobed hslash hprobe⟩)

end ShaderBindings.Arguments
