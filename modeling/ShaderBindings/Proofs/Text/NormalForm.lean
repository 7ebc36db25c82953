import ShaderBindings.Text.NormalForm

/-!
# Normal form — ASCII

Names of ASCII are their own normal form: none of their characters is replaced,
taken apart, moved as a mark, or joined with the one before it. So normal form
needs no tables for them.
-/

namespace ShaderBindings.Text

/-- The text has characters of ASCII only. -/
def IsAscii (cs : List Char) : Prop :=
  ∀ c ∈ cs, c.toNat < 0x80

variable {c d : Char} {cs : List Char}

/-! ## The tables -/

theorem le_of_mem_replacements : ∀ entry ∈ replacements, 0x80 ≤ entry.1 := by
  decide +kernel

theorem le_of_mem_markRanges : ∀ range ∈ markRanges, 0x80 ≤ range.1 := by
  decide +kernel

theorem le_of_mem_joinedCharacters :
    ∀ entry ∈ joinedCharacters, 0x80 ≤ entry.1 ∧ 0x80 ≤ entry.2.2 := by
  decide +kernel

/-! ## Single characters -/

theorem replaced_of_lt (h : c.toNat < 0x80) : replaced c = [c] := by
  unfold replaced
  rw [List.findSome?_eq_none_iff.mpr ?_]
  · rfl
  · rintro ⟨low, high, text⟩ hentry
    have hlow : ¬ low ≤ c.toNat := by
      have : 0x80 ≤ low := le_of_mem_replacements _ hentry
      omega
    simp [wordFor?, hlow]

theorem combiningClass_of_lt (h : c.toNat < 0x80) : combiningClass c = 0 := by
  unfold combiningClass
  rw [List.find?_eq_none.mpr ?_]
  intro range hrange
  have := le_of_mem_markRanges range hrange
  simp only [Bool.and_eq_true, decide_eq_true_eq]
  omega

theorem partsOf_of_lt (h : c.toNat < 0x80) (depth : Nat) :
    partsOf depth c = [c] := by
  have hhangul : hangulParts? c = none := by
    have : ¬ 0xac00 ≤ c.toNat := by omega
    simp [hangulParts?, this]
  have hlookup : joinedCharacters.lookup c.toNat = none := by
    refine List.lookup_eq_none_iff.mpr fun entry hentry => ?_
    have := (le_of_mem_joinedCharacters entry hentry).1
    rw [bne_iff_ne]
    omega
  cases depth with
  | zero => rfl
  | succ depth => simp only [partsOf, hhangul, hlookup]

theorem join?_of_lt (hc : c.toNat < 0x80) (hd : d.toNat < 0x80) :
    join? c d = none := by
  have hhangul : joinHangul? c d = none := by
    have h : ¬ 0x1100 ≤ c.toNat := by omega
    have h' : ¬ 0xac00 ≤ c.toNat := by omega
    simp [joinHangul?, h, h']
  rw [join?, hhangul, List.find?_eq_none.mpr ?_]
  · rfl
  · rintro ⟨joined, first, second⟩ hentry
    have : 0x80 ≤ second := (le_of_mem_joinedCharacters _ hentry).2
    simp only [Bool.and_eq_true, beq_iff_eq]
    omega

/-! ## Texts -/

theorem orderMarks_of_isAscii (h : IsAscii cs) : orderMarks cs = cs := by
  induction cs with
  | nil => rfl
  | cons c cs ih =>
    obtain ⟨hc, hcs⟩ := List.forall_mem_cons.mp h
    simp [orderMarks, combiningClass_of_lt hc, ih hcs]

theorem joinAfter_of_isAscii (hc : c.toNat < 0x80) (h : IsAscii cs) :
    joinAfter c [] cs = c :: cs := by
  induction cs generalizing c with
  | nil => rfl
  | cons d cs ih =>
    obtain ⟨hd, hcs⟩ := List.forall_mem_cons.mp h
    simp [joinAfter, join?_of_lt hc hd, combiningClass_of_lt hd, ih hd hcs]

theorem flatMap_of_isAscii {f : Char → List Char}
    (hf : ∀ c : Char, c.toNat < 0x80 → f c = [c]) (h : IsAscii cs) :
    cs.flatMap f = cs := by
  induction cs with
  | nil => rfl
  | cons c cs ih =>
    obtain ⟨hc, hcs⟩ := List.forall_mem_cons.mp h
    simp [hf c hc, ih hcs]

theorem normalize_of_isAscii (h : IsAscii cs) : normalize cs = cs := by
  rw [normalize, flatMap_of_isAscii (fun _ => replaced_of_lt) h,
    flatMap_of_isAscii (fun _ h => partsOf_of_lt h 4) h,
    orderMarks_of_isAscii h]
  cases cs with
  | nil => rfl
  | cons c cs =>
    obtain ⟨hc, hcs⟩ := List.forall_mem_cons.mp h
    exact joinAfter_of_isAscii hc hcs

/-- The short way for ASCII changes nothing. -/
theorem normalForm_eq (s : String) :
    normalForm s = .ofList (normalize s.toList) := by
  unfold normalForm
  split
  · rename_i hascii
    have h : IsAscii s.toList := by
      simpa [IsAscii, List.all_eq_true] using hascii
    rw [normalize_of_isAscii h, String.ofList_toList]
  · rfl

/-- A text of ASCII is its own normal form. -/
theorem normalForm_of_isAscii {s : String} (h : IsAscii s.toList) :
    normalForm s = s := by
  rw [normalForm_eq, normalize_of_isAscii h, String.ofList_toList]

theorem isNormal_iff {s : String} : isNormal s = true ↔ normalForm s = s := by
  rw [isNormal, beq_iff_eq]

end ShaderBindings.Text
