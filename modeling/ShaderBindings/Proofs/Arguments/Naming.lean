import Mathlib
import ShaderBindings.Proofs.Arguments.Reading

/-!
# Arguments — Naming

The names that a command line asks for are names that a module may have. The
flags are held to the same rules as the options of a module, and the class name
that the name of a file suggests is made of the words in it, each with a capital
at its front: letters and digits of ASCII only, whatever the path is.
-/

namespace ShaderBindings

variable {c : Char} {name : String} {o : Options}

/-! ## Letters and digits -/

theorem isUpper_iff : c.isUpper = true ↔ 65 ≤ c.toNat ∧ c.toNat ≤ 90 := by
  simp [Char.isUpper, UInt32.le_iff_toNat_le]

theorem isLower_iff : c.isLower = true ↔ 97 ≤ c.toNat ∧ c.toNat ≤ 122 := by
  simp [Char.isLower, UInt32.le_iff_toNat_le]

theorem isDigit_iff : c.isDigit = true ↔ 48 ≤ c.toNat ∧ c.toNat ≤ 57 := by
  simp [Char.isDigit, UInt32.le_iff_toNat_le]

theorem isAlphanum_iff : c.isAlphanum = true ↔
    c.isUpper = true ∨ c.isLower = true ∨ c.isDigit = true := by
  simp [Char.isAlphanum, Char.isAlpha, or_assoc]

theorem toNat_lt_of_isAlphanum (h : c.isAlphanum = true) : c.toNat < 0x80 := by
  rw [isAlphanum_iff, isUpper_iff, isLower_iff, isDigit_iff] at h
  omega

theorem isAlphanum_toUpper (h : c.isAlphanum = true) :
    c.toUpper.isAlphanum = true := by
  by_cases halpha : c.isAlpha = true
  · simp [Char.isAlphanum, halpha]
  · have hlower : ¬ c.isLower = true :=
      fun hlower => halpha (by simp [Char.isAlpha, hlower])
    rwa [Char.toUpper_eq_of_not_isLower hlower]

/-! ## Names of classes -/

/-- A text of letters and digits of ASCII, with a capital at its front. -/
structure Capitalized (name : String) : Prop where
  front : ∃ c rest, name.toList = c :: rest ∧ c.isUpper = true
  letters : ∀ c ∈ name.toList, c.isAlphanum = true

theorem Capitalized.isIdentifier (h : Capitalized name) :
    Text.isIdentifier name = true := by
  obtain ⟨c, rest, hname, hfront⟩ := h.front
  have hletters := h.letters
  rw [hname] at hletters
  have hstart : Text.isIdentifierStart c = true := by
    have hascii := toNat_lt_of_isAlphanum (hletters c List.mem_cons_self)
    simp [Text.isIdentifierStart, hascii, Char.isAlpha, hfront]
  have hrest : rest.all Text.isIdentifierRest = true := by
    refine List.all_eq_true.mpr fun d hd => ?_
    have hd := hletters d (List.mem_cons_of_mem c hd)
    simp [Text.isIdentifierRest, toNat_lt_of_isAlphanum hd, hd]
  simp only [Text.isIdentifier, hname, hstart, hrest, Bool.and_self]

theorem isClassName_iff : isClassName name = true ↔
    Text.isIdentifier name = true ∧ name ∉ Text.reservedWords ∧
      name ∉ importedNames := by
  simp [isClassName, Text.isName, and_assoc]

theorem isName_of_isClassName (h : isClassName name = true) :
    Text.isName name = true :=
  (Bool.and_eq_true_iff.mp h).1

/-- Options are in order exactly if their names are. -/
theorem Options.check_eq_ok_iff : o.check = .ok () ↔
    isClassName o.className = true ∧ Text.isDottedName o.package = true := by
  unfold check isClassName
  cases Text.isName o.className with
  | false => simp
  | true =>
    cases importedNames.contains o.className with
    | true => simp
    | false => cases Text.isDottedName o.package <;> simp

namespace Arguments

open File

variable {fs : System} {arg : String} {args : List String}
variable {requests : List Request} {problems : List Problem}

/-! ## The name that a file suggests -/

theorem isAlphanum_of_mem_wordsFrom {word text : List Char}
    (hword : ∀ c ∈ word, c.isAlphanum = true) :
    ∀ w ∈ wordsFrom word text, ∀ c ∈ w, c.isAlphanum = true := by
  have hreverse {word : List Char} (h : ∀ c ∈ word, c.isAlphanum = true) :
      ∀ c ∈ word.reverse, c.isAlphanum = true :=
    fun c hc => h c (List.mem_reverse.mp hc)
  have hnone : ∀ c ∈ ([] : List Char), c.isAlphanum = true :=
    List.forall_mem_nil _
  fun_induction wordsFrom word text with
  | case1 => simp
  | case2 word => simpa using hreverse hword
  | case3 word c rest hc ih => exact ih (List.forall_mem_cons.mpr ⟨hc, hword⟩)
  | case4 word c rest _ _ ih => exact ih hnone
  | case5 word c rest _ _ ih =>
    exact List.forall_mem_cons.mpr ⟨hreverse hword, ih hnone⟩

theorem isAlphanum_of_mem_capitalize {word : List Char}
    (h : ∀ c ∈ word, c.isAlphanum = true) :
    ∀ c ∈ capitalize word, c.isAlphanum = true := by
  cases word with
  | nil => exact h
  | cons c rest =>
    obtain ⟨hc, hrest⟩ := List.forall_mem_cons.mp h
    exact List.forall_mem_cons.mpr ⟨isAlphanum_toUpper hc, hrest⟩

/-- What stands at the front of words with capitals has no small letter for
it. -/
theorem not_isLower_of_flatMap_capitalize {words : List (List Char)}
    {rest : List Char} (h : words.flatMap capitalize = c :: rest) :
    c.isLower ≠ true := by
  induction words with
  | nil => cases h
  | cons word words ih =>
    cases word with
    | nil => exact ih h
    | cons d others =>
      obtain ⟨rfl, -⟩ := List.cons.inj h
      simp

/-- An identifier of letters and digits without a small letter at its front has
a capital there. -/
theorem capitalized_of_isIdentifier
    (hletters : ∀ c ∈ name.toList, c.isAlphanum = true)
    (hlower : ∀ c rest, name.toList = c :: rest → c.isLower ≠ true)
    (h : Text.isIdentifier name = true) : Capitalized name := by
  refine ⟨?_, hletters⟩
  unfold Text.isIdentifier at h
  split at h
  next => cases h
  next c rest hname =>
    have hc : c.isAlphanum = true := hletters c (hname ▸ List.mem_cons_self)
    have halpha : c.isAlpha = true ∨ c = '_' := by
      simpa [Text.isIdentifierStart, toNat_lt_of_isAlphanum hc] using
        (Bool.and_eq_true_iff.mp h).1
    refine ⟨c, rest, hname, ?_⟩
    rcases halpha with halpha | rfl
    · exact ((Bool.or_eq_true_iff.mp halpha).resolve_right
        (hlower c rest hname))
    · exact absurd hc (by decide)

/-- The class name that a path suggests is made of letters and digits without a
small letter at their front, maybe after a word put there. -/
theorem defaultClassName_eq (path : String) : ∃ name : String,
    (∀ c ∈ name.toList, c.isAlphanum = true) ∧
    (∀ c rest, name.toList = c :: rest → c.isLower ≠ true) ∧
    defaultClassName path =
      if isClassName name then name else s!"Shader{name}" := by
  refine ⟨.ofList ((wordsFrom [] ((Path.ofText path).name.toList.takeWhile
    (· != '.'))).flatMap capitalize), ?_, ?_, by rw [defaultClassName]⟩
  · intro c hc
    rw [String.toList_ofList] at hc
    obtain ⟨word, hword, hc⟩ := List.mem_flatMap.mp hc
    have hletters := isAlphanum_of_mem_wordsFrom (List.forall_mem_nil _) word
      hword
    exact isAlphanum_of_mem_capitalize hletters c hc
  · intro c rest hfront
    rw [String.toList_ofList] at hfront
    exact not_isLower_of_flatMap_capitalize hfront

/-- The class name that a path suggests has a capital at its front. -/
theorem capitalized_defaultClassName (path : String) :
    Capitalized (defaultClassName path) := by
  obtain ⟨name, hletters, hlower, heq⟩ := defaultClassName_eq path
  rw [heq]
  split
  next hname =>
    exact capitalized_of_isIdentifier hletters hlower
      (isClassName_iff.mp hname).1
  next =>
    have htext : (s!"Shader{name}").toList =
        ['S', 'h', 'a', 'd', 'e', 'r'] ++ name.toList := by
      simp [toString]
    have hshader : ∀ c ∈ ['S', 'h', 'a', 'd', 'e', 'r'],
        c.isAlphanum = true :=
      List.all_eq_true.mp (by decide)
    refine ⟨⟨'S', _, htext, rfl⟩, ?_⟩
    rw [htext]
    exact List.forall_mem_append.mpr ⟨hshader, hletters⟩

/-- No word that is reserved or imported starts like the word put there. -/
theorem head_ne_of_taken :
    ∀ word ∈ Text.reservedWords ++ importedNames,
      word.toList.head? ≠ some 'S' := by
  decide

theorem isClassName_defaultClassName (path : String) :
    isClassName (defaultClassName path) = true := by
  have hidentifier := (capitalized_defaultClassName path).isIdentifier
  obtain ⟨name, -, -, heq⟩ := defaultClassName_eq path
  rw [heq] at hidentifier ⊢
  split at hidentifier
  next hname => rwa [if_pos hname]
  next hname =>
    have hfree : s!"Shader{name}" ∉ Text.reservedWords ++ importedNames :=
      fun hword => head_ne_of_taken _ hword (by simp [toString])
    rw [List.mem_append, not_or] at hfree
    rw [if_neg hname]
    exact isClassName_iff.mpr ⟨hidentifier, hfree⟩

/-! ## Names that are asked for -/

/-- The names in a request are in order. -/
def Request.Valid : Request → Prop
  | .className name => isClassName name = true
  | .package name => Text.isDottedName name = true
  | _ => True

theorem Usable.valid {request : Request} (h : Usable fs arg request) :
    request.Valid := by
  cases h with
  | className _ _ hname => exact hname
  | package _ _ hname => exact hname
  | reload | embed | stage | output | contextVersion => trivial

theorem ReadsAll.valid (h : ReadsAll fs args requests problems) :
    ∀ request ∈ requests, request.Valid := by
  induction h with
  | nil => exact List.forall_mem_nil _
  | used h _ ih => exact List.forall_mem_cons.mpr ⟨h.valid, ih⟩
  | skipped _ _ ih => exact ih

theorem exists_of_last {α : Type} {value? : Request → Option α} {value : α}
    (h : last requests value? = some value) :
    ∃ request ∈ requests, value? request = some value :=
  List.mem_filterMap.mp (List.mem_of_getLast? h)

theorem isClassName_of_last {name : String}
    (hvalid : ∀ request ∈ requests, request.Valid)
    (h : last requests Request.className? = some name) :
    isClassName name = true := by
  obtain ⟨request, hmem, hname⟩ := exists_of_last h
  cases request with
  | className _ =>
    cases hname
    exact hvalid _ hmem
  | stage | reload | output | package | contextVersion => cases hname

theorem isDottedName_of_last {name : String}
    (hvalid : ∀ request ∈ requests, request.Valid)
    (h : last requests Request.package? = some name) :
    Text.isDottedName name = true := by
  obtain ⟨request, hmem, hname⟩ := exists_of_last h
  cases request with
  | package _ =>
    cases hname
    exact hvalid _ hmem
  | stage | reload | output | className | contextVersion => cases hname

theorem isClassName_default : isClassName "Shader" = true := by decide

theorem isDottedName_default : Text.isDottedName "Shaders" = true := by decide

theorem isClassName_suggestedName (stages : List Stage) :
    isClassName (suggestedName stages) = true := by
  cases stages with
  | nil => exact isClassName_default
  | cons first rest =>
    rw [suggestedName_cons]
    exact isClassName_defaultClassName first.path

/-- What requests with names in order amount to has options in order. -/
theorem AmountTo.check_options {a : Arguments}
    (h : AmountTo requests problems a)
    (hvalid : ∀ request ∈ requests, request.Valid) :
    a.options.check = .ok () := by
  refine Options.check_eq_ok_iff.mpr ⟨?_, ?_⟩
  · show isClassName a.className = true
    rw [h.className]
    cases hname : last requests Request.className? with
    | some name => exact isClassName_of_last hvalid hname
    | none => exact isClassName_suggestedName a.stages
  · show Text.isDottedName a.package = true
    rw [h.package]
    cases hname : last requests Request.package? with
    | some name => exact isDottedName_of_last hvalid hname
    | none => exact isDottedName_default

theorem AmountTo.output_of_stages {a : Arguments}
    (h : AmountTo requests problems a) (hstages : a.stages ≠ []) :
    ∃ path, a.output = some path := by
  have houtput := h.output
  cases hlist : a.stages with
  | nil => exact absurd hlist hstages
  | cons first rest =>
    rw [hlist] at houtput
    obtain ⟨path, -, houtput⟩ := houtput
    exact ⟨_, houtput⟩

/-- A flag for the class name is used exactly if the options of a module may
have that name. -/
theorem read_className_iff {value : String} (hflag : IsFlag fs arg)
    (hsets : Sets arg "name" value) :
    read fs arg = .accepted (.className value) ↔
      ({ className := value } : Options).check = .ok () := by
  have hcheck : ({ className := value } : Options).check = .ok () ↔
      isClassName value = true :=
    Options.check_eq_ok_iff.trans (and_iff_left isDottedName_default)
  rw [hcheck]
  cases hname : isClassName value with
  | true => simp [(Usable.className hflag hsets hname).read_eq]
  | false => simp [(Unusable.className hflag hsets hname).read_eq]

/-- So is a flag for the package. -/
theorem read_package_iff {value : String} (hflag : IsFlag fs arg)
    (hsets : Sets arg "namespace" value) :
    read fs arg = .accepted (.package value) ↔
      ({ package := value } : Options).check = .ok () := by
  have hcheck : ({ package := value } : Options).check = .ok () ↔
      Text.isDottedName value = true :=
    Options.check_eq_ok_iff.trans (and_iff_right isClassName_default)
  rw [hcheck]
  cases hname : Text.isDottedName value with
  | true => simp [(Usable.package hflag hsets hname).read_eq]
  | false => simp [(Unusable.package hflag hsets hname).read_eq]

/-! ## Whole command lines -/

/-- Once all arguments are read, nothing more can fail. -/
theorem readAll_error_of_parse {e : Error}
    (h : (parse fs args).1 = .error e) : (readAll fs args).1 = .error e := by
  rcases readsAll_or_breaksOff fs args with ⟨requests, problems, hread⟩ |
    ⟨before, arg, after, e', requests, problems, rfl, hread, hbreak⟩
  · obtain ⟨a, ha, -⟩ := ofRequests_ok problems hread.names_ne_nil
    rw [parse_eq_ok_iff.mpr ⟨requests, problems, hread, ha⟩] at h
    cases h
  · rw [parse, hread.readAll_append hbreak] at h
    rw [hread.readAll_append hbreak]
    cases h
    rfl

/-- Whatever a command line is read as, its options are in order, and if there
is a stage then there is an output, which nothing can keep from being found.
Flags are used for exactly the class names and packages that options may have,
and the name that any path suggests is one of them. -/
theorem parse_usable (fs : System) (args : List String) :
    (∀ a, (parse fs args).1 = .ok a → a.options.check = .ok () ∧
      (a.stages ≠ [] → ∃ path, a.output = some path)) ∧
    (∀ e, (parse fs args).1 = .error e → (readAll fs args).1 = .error e) ∧
    (∀ arg ∈ args, IsFlag fs arg → ∀ value,
      (Sets arg "name" value → (read fs arg = .accepted (.className value) ↔
        ({ className := value } : Options).check = .ok ())) ∧
      (Sets arg "namespace" value → (read fs arg = .accepted (.package value) ↔
        ({ package := value } : Options).check = .ok ()))) ∧
    ∀ path, Text.isIdentifier (defaultClassName path) = true ∧
      defaultClassName path ∉ Text.reservedWords ∧
      defaultClassName path ∉ importedNames := by
  refine ⟨fun a ha => ?_, fun e he => readAll_error_of_parse he,
    fun arg _ hflag value => ?_, fun path => ?_⟩
  · obtain ⟨requests, problems, hread, hrequests⟩ := parse_eq_ok_iff.mp ha
    have hamount := amountTo_of_ofRequests hrequests
    exact ⟨hamount.check_options hread.valid, hamount.output_of_stages⟩
  · exact ⟨read_className_iff hflag, read_package_iff hflag⟩
  · exact isClassName_iff.mp (isClassName_defaultClassName path)

/-- A file may be called like something that modules import. -/
theorem parse_usable_imported :
    let fs : System := { entries := [(["path.vert"], .file [0x3b])] }
    ∃ a, (parse fs ["-name=np", "path.vert"]).1 = .ok a ∧
      a.className = "ShaderPath" ∧ a.options.check = .ok () ∧
      ∃ path, a.output = some path := by
  intro fs
  have hparse : ∃ a, (parse fs ["-name=np", "path.vert"]).1 = .ok a ∧
      a.className = "ShaderPath" ∧ a.stages ≠ [] := by
    refine ⟨{ stages := [⟨"path.vert", .vertex, ";"⟩],
              output := some ⟨.relative, ["path.py"]⟩,
              className := "ShaderPath",
              problems := [.refused "-name=np"
                ("the shader name must be a valid identifier that the " ++
                  "generated module does not import")] }, ?_, rfl, by simp⟩
    decide +kernel
  obtain ⟨a, ha, hname, hstages⟩ := hparse
  obtain ⟨hcheck, houtput⟩ :=
    (parse_usable fs ["-name=np", "path.vert"]).1 a ha
  exact ⟨a, ha, hname, hcheck, houtput hstages⟩

end Arguments

end ShaderBindings
