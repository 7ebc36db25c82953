import Mathlib.Data.List.DropRight
import ShaderBindings.Capability
import ShaderBindings.Proofs.Version

/-!
# Versions — Finding

The first version in a text stands around the first dot that has digits on both
sides: all the digits just before it, and all the digits just after it. In a
text that is a version and nothing else, this is the version that is read.
-/

namespace ShaderBindings.Version

open Text

variable {s : String} {cs rest run before after : List Char}
variable {major minor : List Char} {more : List (List Char)} {c : Char}

/-! ## Dots between digits -/

/-- A dot with a digit on both sides, by what stands before it and after it. -/
structure NumberDot (cs before after : List Char) : Prop where
  text : cs = before ++ '.' :: after
  digitBefore : ∃ c ∈ before.getLast?, isDigit c = true
  digitAfter : ∃ c ∈ after.head?, isDigit c = true

/-- The first such dot. -/
structure FirstNumberDot (cs before after : List Char) : Prop extends
    NumberDot cs before after where
  first : ∀ before' after', NumberDot cs before' after' →
    before.length ≤ before'.length

/-- No run of digits in the text has too many of them. -/
def ShortRuns (cs : List Char) : Prop :=
  ∀ run, run <:+: cs → (∀ c ∈ run, isDigit c = true) →
    run.length ≤ maxIntegerDigits

theorem isDigit_dot : isDigit '.' = false := by decide

theorem dot_notMem_of_digits (h : ∀ c ∈ run, isDigit c = true) :
    '.' ∉ run := by
  intro hdot
  have hdigit := h '.' hdot
  rw [isDigit_dot] at hdigit
  cases hdigit

/-- Where the first character after a run of digits is no digit, a dot between
digits is that character or comes after it. -/
theorem numberDot_append_iff (hrun : ∀ c ∈ run, isDigit c = true)
    (hc : isDigit c = false) : NumberDot (run ++ c :: rest) before after ↔
      (c = '.' ∧ before = run ∧ after = rest ∧ run ≠ [] ∧
        ∃ d ∈ rest.head?, isDigit d = true) ∨
      ∃ between, before = run ++ c :: between ∧
        NumberDot rest between after := by
  constructor
  · rintro ⟨htext, hbefore, hafter⟩
    have hhere (hb : before = run) (ha : c :: rest = '.' :: after) :
        c = '.' ∧ before = run ∧ after = rest ∧ run ≠ [] ∧
          ∃ d ∈ rest.head?, isDigit d = true := by
      obtain ⟨rfl, rfl⟩ := List.cons.inj ha
      refine ⟨rfl, hb, rfl, ?_, hafter⟩
      rintro rfl
      simp [hb] at hbefore
    obtain ⟨between, hb, ha⟩ | ⟨between, hb, ha⟩ :=
      List.append_eq_append_iff.mp htext
    · cases between with
      | nil => exact .inl (hhere (by simpa using hb) ha)
      | cons d between =>
        obtain ⟨rfl, hrest⟩ := List.cons.inj ha
        refine .inr ⟨between, hb, hrest, ?_, hafter⟩
        -- the digit before the dot is not the character after the run
        obtain ⟨e, he, hdigit⟩ := hbefore
        rw [hb, List.getLast?_append, List.getLast?_cons] at he
        cases hlast : between.getLast? with
        | none =>
          obtain rfl : c = e := by simpa [hlast] using he
          rw [hc] at hdigit
          cases hdigit
        | some d =>
          obtain rfl : d = e := by simpa [hlast] using he
          exact ⟨d, rfl, hdigit⟩
    · cases between with
      | nil => exact .inl (hhere (by simpa using hb.symm) ha.symm)
      | cons d between =>
        obtain ⟨rfl, -⟩ := List.cons.inj ha
        exact absurd (by simp [hb]) (dot_notMem_of_digits hrun)
  · rintro (⟨rfl, rfl, rfl, hne, hafter⟩ | ⟨between, rfl, hdot⟩)
    · refine ⟨rfl, ?_, hafter⟩
      obtain ⟨d, hd⟩ := Option.isSome_iff_exists.mp
        (List.getLast?_isSome.mpr hne)
      exact ⟨d, hd, hrun d (List.mem_of_getLast? hd)⟩
    · obtain ⟨d, hd, hdigit⟩ := hdot.digitBefore
      refine ⟨by simp [hdot.text], ⟨d, ?_, hdigit⟩, hdot.digitAfter⟩
      rw [List.getLast?_append, List.getLast?_cons, hd]
      rfl

theorem rtakeWhile_append_of_not (hc : isDigit c = false)
    (run between : List Char) : (run ++ c :: between).rtakeWhile isDigit =
      between.rtakeWhile isDigit := by
  simp only [List.rtakeWhile, List.reverse_append, List.reverse_cons,
    List.append_assoc, List.singleton_append, List.takeWhile_append,
    List.takeWhile_cons, hc, Bool.false_eq_true, if_false, List.append_nil]
  split
  · rename_i hall
    rw [(List.takeWhile_sublist isDigit).eq_of_length hall]
  · rfl

/-! ## The search -/

/-- What is found in a text: all the digits on both sides of the first dot
between digits, or nothing if there is no such dot. -/
inductive Found (cs : List Char) : Option (List Char × List Char) → Prop
  | nowhere (h : ∀ before after, ¬ NumberDot cs before after) : Found cs none
  | around {before after : List Char} (h : FirstNumberDot cs before after) :
    Found cs (some (before.rtakeWhile isDigit, after.takeWhile isDigit))

/-- The search goes on after a character that neither is a digit nor is found
to be a dot between digits. -/
theorem Found.skip {found : Option (List Char × List Char)}
    (h : Found rest found) (hrun : ∀ c ∈ run, isDigit c = true)
    (hc : isDigit c = false)
    (hnot : ¬ (c = '.' ∧ run ≠ [] ∧ ∃ d ∈ rest.head?, isDigit d = true)) :
    Found (run ++ c :: rest) found := by
  have hlater {before after : List Char}
      (hdot : NumberDot (run ++ c :: rest) before after) :
      ∃ between, before = run ++ c :: between ∧
        NumberDot rest between after := by
    obtain ⟨hc, -, -, hne, hafter⟩ | hlater :=
      (numberDot_append_iff hrun hc).mp hdot
    · exact absurd ⟨hc, hne, hafter⟩ hnot
    · exact hlater
  cases h with
  | nowhere h =>
    refine .nowhere fun before after hdot => ?_
    obtain ⟨between, -, hdot'⟩ := hlater hdot
    exact h between after hdot'
  | @around before after h =>
    have hfirst : FirstNumberDot (run ++ c :: rest) (run ++ c :: before)
        after := by
      refine ⟨(numberDot_append_iff hrun hc).mpr
        (.inr ⟨before, rfl, h.toNumberDot⟩), fun before' after' hdot => ?_⟩
      obtain ⟨between, rfl, hdot'⟩ := hlater hdot
      have hle := h.first between after' hdot'
      simp only [List.length_append, List.length_cons]
      omega
    rw [← rtakeWhile_append_of_not hc run before]
    exact .around hfirst

/-- A dot just after a run of digits that it is the first to end. -/
theorem firstNumberDot_of_run (hrun : ∀ c ∈ run, isDigit c = true)
    (hne : run ≠ []) (hafter : ∃ d ∈ rest.head?, isDigit d = true) :
    FirstNumberDot (run ++ '.' :: rest) run rest := by
  refine ⟨(numberDot_append_iff hrun isDigit_dot).mpr
    (.inl ⟨rfl, rfl, rfl, hne, hafter⟩), fun before' after' hdot => ?_⟩
  obtain ⟨-, rfl, -⟩ | ⟨between, rfl, -⟩ :=
    (numberDot_append_iff hrun isDigit_dot).mp hdot
  · exact Nat.le_refl _
  · simp

theorem takeWhile_isDigit_ne_nil_iff (cs : List Char) :
    cs.takeWhile isDigit ≠ [] ↔ ∃ d ∈ cs.head?, isDigit d = true := by
  cases cs with
  | nil => simp
  | cons c cs => cases h : isDigit c <;> simp [h]

theorem found_findDigits (run cs : List Char)
    (hrun : ∀ c ∈ run, isDigit c = true) :
    Found (run.reverse ++ cs) (findDigits run cs) := by
  have hreverse {run : List Char} (h : ∀ c ∈ run, isDigit c = true) :
      ∀ c ∈ run.reverse, isDigit c = true := by
    simpa using h
  -- the run before the text is always the whole of the digits just before it
  induction cs generalizing run with
  | nil =>
    refine .nowhere fun before after hdot => ?_
    have hdot : '.' ∈ run.reverse ++ [] := by
      rw [hdot.text]
      simp
    exact dot_notMem_of_digits (hreverse hrun) (by simpa using hdot)
  | cons c rest ih =>
    rw [findDigits]
    split
    · rename_i hc
      simpa using ih (c :: run) (List.forall_mem_cons.mpr ⟨hc, hrun⟩)
    · rename_i hc
      replace hc : isDigit c = false := by simpa using hc
      dsimp only
      split
      · rename_i hhere
        simp only [Bool.and_eq_true, beq_iff_eq, Bool.not_eq_true',
          List.isEmpty_eq_false_iff] at hhere
        obtain ⟨⟨rfl, hne⟩, hminor⟩ := hhere
        have hall : run.reverse.rtakeWhile isDigit = run.reverse :=
          List.rtakeWhile_eq_self_iff.mpr (hreverse hrun)
        have hfound : Found (run.reverse ++ '.' :: rest) _ :=
          .around (firstNumberDot_of_run (hreverse hrun) (by simpa using hne)
            ((takeWhile_isDigit_ne_nil_iff rest).mp hminor))
        rwa [hall] at hfound
      · rename_i hnot
        refine (ih [] (by simp)).skip (hreverse hrun) hc ?_
        rintro ⟨rfl, hne, hafter⟩
        have hminor := (takeWhile_isDigit_ne_nil_iff rest).mpr hafter
        simp [hminor] at hnot
        simp [hnot] at hne

/-- The numbers that are found can be read if no run of digits is too long. -/
theorem Found.ofDigits_eq (h : Found cs (some (major, minor)))
    (hcs : ShortRuns cs) :
    ofDigits major minor = .ok ⟨digitsValue major, digitsValue minor⟩ := by
  cases h with
  | @around before after h =>
    have hbefore : before <:+: cs := ⟨[], '.' :: after, by simp [h.text]⟩
    have hafter : after <:+: cs := ⟨before ++ ['.'], [], by simp [h.text]⟩
    have hmajor := hcs (before.rtakeWhile isDigit)
      ((List.rtakeWhile_suffix isDigit before).isInfix.trans hbefore)
      fun _ => List.mem_rtakeWhile_imp
    have hminor := hcs (after.takeWhile isDigit)
      ((List.takeWhile_prefix isDigit).isInfix.trans hafter)
      (List.all_eq_true.mp List.all_takeWhile)
    exact ofDigits_of_short (by simp [firstLong?, hmajor, hminor])

/-! ## Both readers -/

theorem findDigits_append {digits : List Char}
    (h : ∀ c ∈ digits, isDigit c = true) :
    findDigits run (digits ++ cs) = findDigits (digits.reverse ++ run) cs := by
  induction digits generalizing run with
  | nil => rfl
  | cons c digits ih =>
    obtain ⟨hc, hdigits⟩ := List.forall_mem_cons.mp h
    rw [List.cons_append, findDigits, if_pos hc, ih hdigits]
    simp

theorem forall_isDigit_of_isNumber {part : List Char}
    (h : isNumber part = true) : ∀ c ∈ part, isDigit c = true := by
  rw [isNumber, Bool.and_eq_true, List.all_eq_true] at h
  exact h.2

/-- Numbers with dots between them start with all the digits of the first. -/
theorem takeWhile_intercalate
    (h : ∀ part ∈ minor :: more, isNumber part = true) :
    (['.'].intercalate (minor :: more)).takeWhile isDigit = minor := by
  have hminor := forall_isDigit_of_isNumber (h minor List.mem_cons_self)
  cases more with
  | nil => simpa using List.takeWhile_eq_self_iff.mpr hminor
  | cons next more =>
    rw [List.intercalate_cons_cons, List.append_assoc,
      List.takeWhile_append_of_pos hminor]
    simp [isDigit_dot]

/-- In a version that is written right, its first two numbers are found. -/
theorem Written.findDigits_eq (h : Written s major minor more) :
    findDigits [] s.toList = some (major, minor) := by
  obtain ⟨hmajor, hrest⟩ := List.forall_mem_cons.mp h.numbers
  have hminor := (List.forall_mem_cons.mp hrest).1
  have hne {part : List Char} (h : isNumber part = true) : part ≠ [] := by
    rintro rfl
    cases h
  have hfind : findDigits [] s.toList = findDigits (major.reverse ++ [])
      ('.' :: ['.'].intercalate (minor :: more)) := by
    rw [h.text, List.intercalate_cons_cons, List.append_assoc,
      findDigits_append (forall_isDigit_of_isNumber hmajor)]
    rfl
  rw [hfind, findDigits, if_neg (by simp [isDigit_dot]),
    takeWhile_intercalate hrest]
  simp [hne hmajor, hne hminor]

theorem Written.find?_eq (h : Written s major minor more) :
    find? s = (ofDigits major minor).map some := by
  rw [find?, h.findDigits_eq]

/-- What is found in a text is the version around the first dot between digits,
and nothing is found exactly if there is none. A text that is a version and
nothing else is read as the version that is found in it, and any other text is
refused. -/
theorem versionIn_found (t : RawText) (h : ShortRuns t.decoded.toList) :
    let s := t.decoded
    ((Capability.versionIn (some t) = .ok none ∧
        ∀ before after, ¬ NumberDot s.toList before after) ∨
      ∃ before after, FirstNumberDot s.toList before after ∧
        Capability.versionIn (some t) =
          .ok (some ⟨digitsValue (before.rtakeWhile isDigit),
            digitsValue (after.takeWhile isDigit)⟩)) ∧
    (((∃ major minor more, Written s major minor more) ∧
        ∃ v, ofText s = .ok v ∧
          Capability.versionIn (some t) = .ok (some v)) ∨
      (∀ major minor more, ¬ Written s major minor more) ∧
        ofText s = .error (.argument s "expected a version like 3.3")) := by
  intro s
  have hfind : Capability.versionIn (some t) = find? s := rfl
  have hfound := found_findDigits [] s.toList (by simp)
  rw [List.reverse_nil, List.nil_append] at hfound
  rw [hfind]
  refine ⟨?_, ?_⟩
  · rw [find?]
    generalize findDigits [] s.toList = found at hfound
    cases hfound with
    | nowhere hnone => exact .inl ⟨rfl, hnone⟩
    | @around before after hfirst =>
      refine .inr ⟨before, after, hfirst, ?_⟩
      dsimp only
      rw [(Found.around hfirst).ofDigits_eq h]
      rfl
  · by_cases hwritten : ∃ major minor more, Written s major minor more
    · obtain ⟨major, minor, more, hw⟩ := hwritten
      rw [hw.findDigits_eq] at hfound
      have hdigits := hfound.ofDigits_eq h
      refine .inl ⟨⟨_, _, _, hw⟩, _, hw.ofText_eq.trans hdigits, ?_⟩
      rw [hw.find?_eq, hdigits]
      rfl
    · simp only [not_exists] at hwritten
      exact .inr ⟨hwritten, ofText_of_not_written hwritten⟩

/-- Dots without digits on both sides, digits of another script, and a byte that
is not UTF-8; and a version out of the same text. -/
theorem versionIn_found_replaced :
    let t := RawText.bytes [0x37, 0x2e, 0x2e, 0x31, 0x32, 0x2e, 0xd9, 0xa4,
      0x2e, 0x35, 0xff]
    let s := "12.\u0664.5"
    t.decoded = "7..12.\u0664.5\ufffd" ∧ ShortRuns t.decoded.toList ∧
      Capability.versionIn (some t) = .ok (some ⟨12, 4⟩) ∧
      (∃ before after, FirstNumberDot t.decoded.toList before after) ∧
      (∀ major minor more, ¬ Written t.decoded major minor more) ∧
      ShortRuns s.toList ∧ (∃ major minor more, Written s major minor more) ∧
      Capability.versionIn (some (.text s)) = .ok (some ⟨12, 4⟩) := by
  intro t s
  have hdecoded : t.decoded = "7..12.\u0664.5\ufffd" := by decide +kernel
  have hshort {cs : List Char} (h : cs.length ≤ maxIntegerDigits) :
      ShortRuns cs := fun run hrun _ => hrun.length_le.trans h
  have ht : ShortRuns t.decoded.toList := hshort (by rw [hdecoded]; decide)
  have hs : ShortRuns s.toList := hshort (by decide)
  have hversion : Capability.versionIn (some t) = .ok (some ⟨12, 4⟩) := by
    decide +kernel
  have hrefused : ∀ v, ofText t.decoded ≠ .ok v := by
    intro v hv
    have herror : (ofText t.decoded).toOption = none := by decide +kernel
    rw [hv] at herror
    cases herror
  have haccepted : ofText s = .ok ⟨12, 4⟩ := by decide +kernel
  obtain ⟨hfound, hread⟩ := versionIn_found t ht
  obtain ⟨-, ⟨hwritten, v, hv, hsame⟩ | ⟨-, herror⟩⟩ :=
    versionIn_found (.text s) hs
  · refine ⟨hdecoded, ht, hversion, ?_, ?_, hs, hwritten, ?_⟩
    · obtain ⟨hnone, -⟩ | ⟨before, after, hfirst, -⟩ := hfound
      · cases hnone.symm.trans hversion
      · exact ⟨before, after, hfirst⟩
    · obtain ⟨-, v, hv, -⟩ | ⟨hnot, -⟩ := hread
      · exact absurd hv (hrefused v)
      · exact hnot
    · cases haccepted.symm.trans hv
      exact hsame
  · cases haccepted.symm.trans herror

end ShaderBindings.Version
