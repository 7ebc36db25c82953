import Mathlib
import ShaderBindings.Proofs.Arguments.Reading
import ShaderBindings.Proofs.Table

/-!
# Arguments — Stage files

A path that stands alone asks for the same as the flag of its stage. The stage
is told by what stands after the last dot of the path, in any case of letters,
and by nothing else: at most one extension fits, so that their order does not
matter, and neither does how letters outside ASCII are written in lower case.
-/

namespace ShaderBindings.Arguments

open File

variable {fs : System} {arg other : String} {kind : StageKind}
variable {text lower letters ending : List Char} {c : Char}

/-! ## Extensions -/

/-- The ending stands after the last dot of the text. -/
def AfterLastDot (text ending : List Char) : Prop :=
  ∃ front, text = front ++ '.' :: ending ∧ '.' ∉ ending

/-- A dot before a dot is not the last one. -/
theorem eq_of_cons_eq_append {more ending' : List Char}
    (h : '.' :: ending = more ++ '.' :: ending') (hdot : '.' ∉ ending) :
    ending = ending' := by
  cases more with
  | nil => exact List.tail_eq_of_cons_eq h
  | cons c more =>
    have htail : ending = more ++ '.' :: ending' := List.tail_eq_of_cons_eq h
    exact absurd (htail ▸ List.mem_append_cons_self) hdot

theorem AfterLastDot.unique {ending' : List Char}
    (h : AfterLastDot text ending) (h' : AfterLastDot text ending') :
    ending = ending' := by
  obtain ⟨front, rfl, hdot⟩ := h
  obtain ⟨front', heq, hdot'⟩ := h'
  rcases List.append_eq_append_iff.mp heq with ⟨more, -, heq⟩ | ⟨more, -, heq⟩
  · exact eq_of_cons_eq_append heq hdot
  · exact (eq_of_cons_eq_append heq hdot').symm

/-- The characters of the extensions. -/
def extensionLetters : List Char :=
  stageExtensions.flatMap fun e => e.1.toList

/-- A text in lower case. The letters of ASCII are as they are there. The form
of any other character is free, except that it has none of the characters of the
extensions, as in fact none has. -/
inductive Lowered : List Char → List Char → Prop
  | nil : Lowered [] []
  | ascii {text lower : List Char} {c : Char} (hrest : Lowered text lower)
      (hc : c.toNat < 0x80) :
    Lowered (text ++ [c]) (lower ++ [c.toLower])
  | other {text lower form : List Char} {c : Char} (hrest : Lowered text lower)
      (hc : 0x80 ≤ c.toNat) (hne : form ≠ [])
      (hform : ∀ d ∈ form, d ∉ extensionLetters) :
    Lowered (text ++ [c]) (lower ++ form)

/-- A dot and small letters of ASCII. -/
def isExtension (extension : String) : Bool :=
  match extension.toList with
  | '.' :: letters => letters.all Char.isLower
  | _ => false

/-- The extension is at the end of a text in lower case. -/
def isAtEnd (lower : List Char) (e : String × StageKind) : Bool :=
  e.1.toList.isSuffixOf lower

theorem isExtension_of_mem :
    ∀ e ∈ stageExtensions, isExtension e.1 = true := by
  decide

theorem nodup_stageExtensions : (stageExtensions.map Prod.fst).Nodup := by
  decide

theorem toNat_lt_of_mem_extensionLetters :
    ∀ c ∈ extensionLetters, c.toNat < 0x80 := by
  have hall : extensionLetters.all (fun c => c.toNat < 0x80) = true := by
    decide
  simpa using hall

theorem toLower_of_not_ascii (h : 0x80 ≤ c.toNat) : c.toLower = c := by
  refine Char.toLower_eq_of_not_isUpper fun hupper => ?_
  simp [Char.isUpper, UInt32.le_iff_toNat_le] at hupper
  omega

/-- One lower-case form is that in which only the letters of ASCII change. -/
theorem lowered_map (text : List Char) :
    Lowered text (text.map Char.toLower) := by
  induction text using List.reverseRecOn with
  | nil => exact .nil
  | append_singleton text c ih =>
    rw [List.map_append]
    by_cases hc : c.toNat < 0x80
    · exact .ascii ih hc
    · have hother : 0x80 ≤ c.toNat := Nat.le_of_not_lt hc
      refine .other ih hother (List.cons_ne_nil _ _) fun d hd hletter => ?_
      obtain rfl : d = c := by
        rwa [List.map_singleton, toLower_of_not_ascii hother,
          List.mem_singleton] at hd
      exact hc (toNat_lt_of_mem_extensionLetters d hletter)

/-- Letters of extensions end in no other character. -/
theorem suffix_concat_of_notMem {d : Char}
    (hletters : ∀ d ∈ letters, d ∈ extensionLetters)
    (hd : d ∉ extensionLetters) : letters <:+ text ++ [d] ↔ letters = [] := by
  rw [List.suffix_concat_iff]
  refine or_iff_left ?_
  rintro ⟨front, rfl, -⟩
  exact hd (hletters d (by simp))

/-- Whether letters of extensions are the end of a text in lower case depends on
the letters of ASCII only. -/
theorem Lowered.suffix_iff (h : Lowered text lower)
    (hletters : ∀ d ∈ letters, d ∈ extensionLetters) :
    letters <:+ lower ↔ letters <:+ text.map Char.toLower := by
  induction h generalizing letters with
  | nil => rfl
  | @ascii text lower c hrest hc ih =>
    rw [List.map_append, List.map_singleton, List.suffix_concat_iff,
      List.suffix_concat_iff]
    refine or_congr_right (exists_congr fun front => and_congr_right ?_)
    rintro rfl
    exact ih fun d hd => hletters d (List.mem_append_left _ hd)
  | @other text lower form c hrest hc hne hform ih =>
    obtain ⟨front, last, rfl⟩ := form.eq_nil_or_concat.resolve_left hne
    have hlast : last ∉ extensionLetters := hform last (by simp)
    have hother : c ∉ extensionLetters := fun hletter =>
      absurd (toNat_lt_of_mem_extensionLetters c hletter) (Nat.not_lt.mpr hc)
    rw [List.map_append, List.map_singleton, toLower_of_not_ascii hc,
      List.concat_eq_append, ← List.append_assoc,
      suffix_concat_of_notMem hletters hlast,
      suffix_concat_of_notMem hletters hother]

theorem toLower_eq_dot_iff : c.toLower = '.' ↔ c = '.' := by
  refine ⟨fun h => ?_, by rintro rfl; rfl⟩
  have halpha : c.isAlpha = false := by
    rw [← Char.isAlpha_toLower_eq_isAlpha, h]
    rfl
  have hupper : ¬ c.isUpper = true := by
    simp_all [Char.isAlpha]
  rwa [Char.toLower_eq_of_not_isUpper hupper] at h

/-- A dot and small letters are the end of a text in lower case exactly if the
letters stand after its last dot. -/
theorem dot_suffix_iff (hletters : letters.all Char.isLower = true) :
    '.' :: letters <:+ text.map Char.toLower ↔ ∃ ending,
      AfterLastDot text ending ∧ ending.map Char.toLower = letters := by
  have hnot : '.' ∉ letters := fun hdot =>
    absurd (List.all_eq_true.mp hletters '.' hdot) (by decide)
  constructor
  · rintro ⟨front, heq⟩
    obtain ⟨before, after, rfl, -, hafter⟩ := List.map_eq_append_iff.mp heq.symm
    obtain ⟨dot, ending, rfl, hdot, hending⟩ := List.map_eq_cons_iff.mp hafter
    obtain rfl := toLower_eq_dot_iff.mp hdot
    refine ⟨ending, ⟨before, rfl, fun hmem => hnot ?_⟩, hending⟩
    exact hending ▸ List.mem_map_of_mem (f := Char.toLower) hmem
  · rintro ⟨ending, ⟨front, rfl, -⟩, rfl⟩
    exact ⟨front.map Char.toLower, by simp⟩

/-- The extension is the end of a text in lower case exactly if it is what
stands after the last dot, in any case of letters. -/
theorem Lowered.isAtEnd_iff (h : Lowered text lower)
    {e : String × StageKind} (he : e ∈ stageExtensions) :
    isAtEnd lower e = true ↔ ∃ ending, AfterLastDot text ending ∧
      e.1 = .ofList ('.' :: ending.map Char.toLower) := by
  have hletters : ∀ d ∈ e.1.toList, d ∈ extensionLetters :=
    fun d hd => List.mem_flatMap.mpr ⟨e, he, hd⟩
  have hextension := isExtension_of_mem e he
  rw [isAtEnd, List.isSuffixOf_iff_suffix, h.suffix_iff hletters]
  unfold isExtension at hextension
  split at hextension
  next letters heq =>
    rw [heq, dot_suffix_iff hextension]
    refine exists_congr fun ending => and_congr_right fun _ => ?_
    rw [← String.toList_inj, heq, String.toList_ofList, List.cons.injEq,
      eq_self, true_and]
    exact eq_comm
  next => cases hextension

/-- At most one extension is at the end. -/
theorem Lowered.extension_unique (h : Lowered text lower)
    {e e' : String × StageKind} (he : e ∈ stageExtensions)
    (he' : e' ∈ stageExtensions)
    (hend : isAtEnd lower e = true) (hend' : isAtEnd lower e' = true) :
    e = e' := by
  obtain ⟨ending, hafter, heq⟩ := (h.isAtEnd_iff he).mp hend
  obtain ⟨ending', hafter', heq'⟩ := (h.isAtEnd_iff he').mp hend'
  rw [hafter.unique hafter', ← heq'] at heq
  exact List.inj_on_of_nodup_map nodup_stageExtensions he he' heq

/-- In whatever order they are tried, the extension that is found is the one
that stands after the last dot. -/
theorem Lowered.find?_eq_some_iff (h : Lowered text lower)
    {table : List (String × StageKind)} (htable : table.Perm stageExtensions) :
    (table.find? (isAtEnd lower)).map Prod.snd = some kind ↔
      ∃ ending, AfterLastDot text ending ∧
        (.ofList ('.' :: ending.map Char.toLower), kind) ∈ stageExtensions := by
  constructor
  · intro hfound
    obtain ⟨e, hfind, rfl⟩ := Option.map_eq_some_iff.mp hfound
    have he := htable.mem_iff.mp (List.mem_of_find?_eq_some hfind)
    obtain ⟨ending, hafter, heq⟩ :=
      (h.isAtEnd_iff he).mp (List.find?_some hfind)
    exact ⟨ending, hafter, heq ▸ he⟩
  · rintro ⟨ending, hafter, he⟩
    have hend := (h.isAtEnd_iff he).mpr ⟨ending, hafter, rfl⟩
    cases hfind : table.find? (isAtEnd lower) with
    | none =>
      have hnone := List.find?_eq_none.mp hfind _ (htable.mem_iff.mpr he)
      exact absurd hend hnone
    | some e =>
      have he' := htable.mem_iff.mp (List.mem_of_find?_eq_some hfind)
      rw [h.extension_unique he' he (List.find?_some hfind) hend]
      rfl

/-- What stands after the last dot of a path tells its stage, in any case of
letters. -/
structure ToldByEnding (path : String) : Prop where
  ending : ∀ kind, stageOfPath? path = some kind ↔
    ∃ ending, AfterLastDot path.toList ending ∧
      (.ofList ('.' :: ending.map Char.toLower), kind) ∈ stageExtensions
  /-- At most one extension fits. -/
  unique : ∀ lower, Lowered path.toList lower →
    ∀ e ∈ stageExtensions, ∀ e' ∈ stageExtensions,
      isAtEnd lower e = true → isAtEnd lower e' = true → e = e'
  /-- The order of the extensions does not matter. -/
  order : ∀ lower, Lowered path.toList lower →
    ∀ table : List (String × StageKind), table.Perm stageExtensions →
      (table.find? (isAtEnd lower)).map Prod.snd = stageOfPath? path

theorem toldByEnding (path : String) : ToldByEnding path where
  ending _ := (lowered_map path.toList).find?_eq_some_iff (List.Perm.refl _)
  unique _ hlower _ he _ he' := hlower.extension_unique he he'
  order lower hlower table htable := by
    refine Option.ext fun kind => ?_
    rw [hlower.find?_eq_some_iff htable]
    exact ((lowered_map path.toList).find?_eq_some_iff
      (List.Perm.refl _)).symm

/-! ## Paths and flags -/

/-- Arguments with the same verdict can stand for each other. -/
theorem parse_congr (h : read fs arg = read fs other)
    (before after : List String) :
    parse fs (before ++ arg :: after) = parse fs (before ++ other :: after) := by
  have hread : readAll fs (before ++ arg :: after) =
      readAll fs (before ++ other :: after) := by
    induction before with
    | nil => simp only [List.nil_append, readAll, h]
    | cons first before ih => simp only [List.cons_append, readAll, ih]
  rw [parse, parse, hread]

/-- The flag for a stage with a path, which may be in quotes. -/
def stageFlag (flag path : String) : String :=
  "-" ++ flag ++ "=" ++ path

theorem notMem_of_stageFlags {flag : String}
    (h : stageFlags.lookup flag = some kind) : '=' ∉ flag.toList := by
  have hall : ∀ f ∈ stageFlags, '=' ∉ f.1.toList := by decide
  exact hall (flag, kind) (Table.mem_of_lookup h)

theorem asksStage_stageFlag {flag : String}
    (h : stageFlags.lookup flag = some kind) (path : String) :
    AsksStage fs (stageFlag flag path) (trimQuotes path) kind := by
  refine .flag (.inl ?_) ⟨path.toList, ?_, notMem_of_stageFlags h, ?_⟩ h
  · simp [stageFlag]
  · simp [stageFlag]
  · rw [String.ofList_toList]

/-- A path of a stage, or one that cannot even be looked up, comes to the same
as its flag. -/
theorem read_stageFlag (hfile : isFlag fs arg ≠ .ok true)
    (hkind : stageOfPath? (trimQuotes arg) = some kind) {flag : String}
    (hflag : stageFlags.lookup flag = some kind) :
    read fs arg = read fs (stageFlag flag arg) := by
  rw [read_of_asksStage (asksStage_stageFlag hflag arg)]
  rcases isFlag_or_isFile fs arg with h | h | ⟨fault, hslash, hprobe⟩
  · exact absurd h.isFlag_eq hfile
  · exact read_of_asksStage (.file h hkind)
  · rw [(Unusable.unprobed hslash hprobe).read_eq,
      readStage_of_refused (System.readBytes_of_pathExists_error hprobe)]
    rfl

/-- Without a stage a path is skipped, whatever is in any file. -/
theorem exists_read_of_noStage (hfile : isFlag fs arg ≠ .ok true)
    (hkind : stageOfPath? (trimQuotes arg) = none) :
    ∃ problem, (∀ fs', isFlag fs' arg = isFlag fs arg →
        read fs' arg = .skipped problem) ∧
      (isFlag fs arg = .ok false → problem = .refused (trimQuotes arg)
        "unable to determine the shader stage of the file") := by
  rcases isFlag_or_isFile fs arg with h | h | ⟨fault, hslash, hprobe⟩
  · exact absurd h.isFlag_eq hfile
  · rw [h.isFlag_eq]
    refine ⟨_, fun fs' hsame => ?_, fun _ => rfl⟩
    simp only [read, hsame, readFile, stageOfPath, hkind]
    rfl
  · have herror : isFlag fs arg = .error (.file fault) := by
      rw [isFlag_of_slash hslash, hprobe]
      rfl
    rw [herror]
    refine ⟨.unreadable fault, fun fs' hsame => ?_, fun h => by cases h⟩
    simp only [read, hsame]
    rfl

theorem exists_stageFlag (kind : StageKind) :
    ∃ flag, stageFlags.lookup flag = some kind := by
  cases kind with
  | vertex => exact ⟨"vert", rfl⟩
  | fragment => exact ⟨"frag", rfl⟩
  | geometry => exact ⟨"geom", rfl⟩
  | tessEval => exact ⟨"tessEval", rfl⟩
  | tessControl => exact ⟨"tessControl", rfl⟩
  | compute => exact ⟨"compute", rfl⟩

/-- An argument that is no flag is the path of a stage, maybe in quotes. What
stands after the last dot of the path tells the stage, in any case of letters,
whatever the order of the extensions, of which at most one fits. In any command
line the path can stand for the flag of the stage with it, and the other way
round. Without a stage it is skipped, whatever is in any file. -/
theorem parse_stageFile (hfile : isFlag fs arg ≠ .ok true) :
    ToldByEnding (trimQuotes arg) ∧
    (∀ kind, stageOfPath? (trimQuotes arg) = some kind →
      (∃ flag, stageFlags.lookup flag = some kind) ∧
      ∀ flag, stageFlags.lookup flag = some kind → ∀ before after,
        parse fs (before ++ arg :: after) =
          parse fs (before ++ stageFlag flag arg :: after)) ∧
    (stageOfPath? (trimQuotes arg) = none → ∃ problem,
      (∀ fs', isFlag fs' arg = isFlag fs arg →
        read fs' arg = .skipped problem) ∧
      (isFlag fs arg = .ok false → problem = .refused (trimQuotes arg)
        "unable to determine the shader stage of the file")) := by
  refine ⟨toldByEnding _, fun kind hkind => ⟨exists_stageFlag kind, ?_⟩,
    exists_read_of_noStage hfile⟩
  intro flag hflag before after
  exact parse_congr (read_stageFlag hfile hkind hflag) before after

/-- Dots of directories, and equals signs, tell nothing. -/
theorem parse_stageFile_quoted :
    let fs : System := { entries :=
      [(["d.vs"], .directory), (["d.vs", "a.geom=b.Frag"], .file [0x3b])] }
    let arg := "\"d.vs/a.geom=b.Frag\""
    isFlag fs arg ≠ .ok true ∧
      parse fs ["-r", arg] = parse fs ["-r", "-frag=" ++ arg] ∧
      ∃ a, (parse fs ["-r", arg]).1 = .ok a ∧
        a.stages = [⟨"d.vs/a.geom=b.Frag", .fragment, ";"⟩] := by
  intro fs arg
  have hfile : isFlag fs arg ≠ .ok true := by decide
  have hkind : stageOfPath? (trimQuotes arg) = some .fragment := by decide
  obtain ⟨-, hflags, -⟩ := parse_stageFile hfile
  refine ⟨hfile, (hflags .fragment hkind).2 "frag" rfl ["-r"] [], ?_⟩
  refine ⟨{ stages := [⟨"d.vs/a.geom=b.Frag", .fragment, ";"⟩],
            output := some ⟨.relative, ["d.vs", "a.geom=b.py"]⟩,
            className := "A",
            reload := true }, ?_, rfl⟩
  decide +kernel

end ShaderBindings.Arguments
