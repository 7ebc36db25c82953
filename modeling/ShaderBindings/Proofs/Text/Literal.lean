import Mathlib.Algebra.Ring.Nat
import ShaderBindings.Text.Escape
import ShaderBindings.Text.Literal

/-!
# Quoted literals — Reading back

What a reader of the generated language makes of an escape is the character that
was escaped, so a literal tells the text that it quotes and where it ends,
whatever follows it. It stands on one line.
-/

namespace ShaderBindings.Text

/-! ## Digits -/

theorem hexValue?_digitChar {d : Nat} (h : d < 16) :
    hexValue? (Nat.digitChar d) = some d := by
  have key : ∀ e : Fin 16, hexValue? (Nat.digitChar e) = some e.val := by decide
  exact key ⟨d, h⟩

/-- Reading digits goes on where the written ones end. -/
theorem takeHex_hexDigits (width more value n : Nat) (rest : List Char) :
    takeHex (width + more) value (hexDigits width n ++ rest) =
      takeHex more (value * 16 ^ width + n % 16 ^ width) rest := by
  induction width generalizing more n rest with
  | zero => simp [hexDigits, Nat.mod_one]
  | succ width ih =>
    have hdigit := hexValue?_digitChar (Nat.mod_lt n (by decide : 0 < 16))
    have hvalue : 16 * (value * 16 ^ width + n / 16 % 16 ^ width) + n % 16 =
        value * 16 ^ (width + 1) + n % 16 ^ (width + 1) := by
      rw [Nat.pow_succ', Nat.mod_mul, Nat.mul_left_comm value]
      omega
    rw [hexDigits, List.append_assoc, Nat.add_assoc, Nat.add_comm 1 more, ih,
      List.singleton_append, takeHex, hdigit]
    simp only [hvalue]

theorem lineFeed_notMem_hexDigits (width n : Nat) :
    '\n' ∉ hexDigits width n := by
  induction width generalizing n with
  | zero => simp [hexDigits]
  | succ width ih =>
    have hdigit := hexValue?_digitChar (Nat.mod_lt n (by decide : 0 < 16))
    intro h
    rcases List.mem_append.mp h with h | h
    · exact ih (n / 16) h
    · rw [← List.mem_singleton.mp h] at hdigit
      cases hdigit

/-- The digits of a code point stand for its character. -/
theorem readEscape_hexDigits {letter c : Char} {width : Nat}
    (hletter : letterEscape? letter = none)
    (hoctal : ('0' ≤ letter && letter ≤ '7') = false) (hline : letter ≠ '\n')
    (hwidth : digitsAfter? letter = some width) (hc : c.toNat < 16 ^ width)
    (start : Nat) (rest : List Char) :
    readEscape start letter (hexDigits width c.toNat ++ rest) =
      .ok ([c], rest) := by
  have hdigits := takeHex_hexDigits width 0 0 c.toNat rest
  rw [Nat.add_zero, Nat.zero_mul, Nat.zero_add, Nat.mod_eq_of_lt hc,
    takeHex] at hdigits
  have hvalid : c.toNat.isValidChar := c.valid
  have hunicode : ¬ 0x10ffff < c.toNat := by
    rcases hvalid with h | ⟨_, h⟩ <;> omega
  simp [readEscape, hline, hletter, hoctal, hwidth, hdigits, hvalid, hunicode,
    Char.ofNat_toNat]

/-! ## Characters -/

/-- A mark that literals are delimited by. -/
def IsQuote (mark : Char) : Prop :=
  mark = '\'' ∨ mark = '"'

theorem isQuote_quoteMark (text : List Char) : IsQuote (quoteMark text) := by
  unfold IsQuote quoteMark
  split <;> simp

theorem IsQuote.ne_backslash {mark : Char} (h : IsQuote mark) :
    mark ≠ '\\' := by
  rcases h with rfl | rfl <;> decide

/-- What a character becomes inside a literal: itself, or an escape that is read
as the character and leaves what follows. Neither breaks the line. -/
inductive Quoted (mark c : Char) : List Char → Prop
  | itself (hslash : c ≠ '\\') (hmark : c ≠ mark) (hline : c ≠ '\n') :
    Quoted mark c [c]
  | escaped (letter : Char) (more : List Char) (hline : '\n' ∉ letter :: more)
      (hread : ∀ start rest,
        readEscape start letter (more ++ rest) = .ok ([c], rest)) :
    Quoted mark c ('\\' :: letter :: more)

theorem Quoted.lineFeed_notMem {mark c : Char} {cs : List Char}
    (h : Quoted mark c cs) : '\n' ∉ cs := by
  cases h with
  | itself _ _ hline => simpa using hline.symm
  | escaped letter more hline _ => simpa using hline

/-- A code point in digits is an escape. -/
theorem quoted_hexDigits {mark c letter : Char} {width : Nat}
    (hletter : letterEscape? letter = none)
    (hoctal : ('0' ≤ letter && letter ≤ '7') = false) (hline : letter ≠ '\n')
    (hwidth : digitsAfter? letter = some width) (hc : c.toNat < 16 ^ width) :
    Quoted mark c ('\\' :: letter :: hexDigits width c.toNat) :=
  .escaped letter _
    (by simpa using ⟨hline.symm, lineFeed_notMem_hexDigits width c.toNat⟩)
    (readEscape_hexDigits hletter hoctal hline hwidth hc)

theorem quoted_wideEscape (mark c : Char) : Quoted mark c (wideEscape c) := by
  have hc : c.toNat < 16 ^ 8 := by
    rcases c.valid with h | ⟨_, h⟩ <;> (simp only [Char.toNat]; omega)
  exact quoted_hexDigits rfl rfl (by decide) rfl hc

theorem quoted_escapeChar {mark : Char} (hmark : IsQuote mark) (c : Char) :
    Quoted mark c (escapeChar mark c) := by
  unfold escapeChar
  split
  · rename_i h
    rcases hmark with rfl | rfl <;> simp at h <;> rcases h with rfl | rfl <;>
      exact .escaped _ [] (by decide) fun _ _ => rfl
  split
  · rename_i h
    rw [eq_of_beq h]
    exact .escaped 'n' [] (by decide) fun _ _ => rfl
  split
  · rename_i h
    rw [eq_of_beq h]
    exact .escaped 'r' [] (by decide) fun _ _ => rfl
  split
  · rename_i h
    rw [eq_of_beq h]
    exact .escaped 't' [] (by decide) fun _ _ => rfl
  split
  · rename_i h hn _ _ _
    simp at h hn
    exact .itself h.1 h.2 hn
  split
  · rename_i h
    exact quoted_hexDigits rfl rfl (by decide) rfl h
  split
  · rename_i h
    exact quoted_hexDigits rfl rfl (by decide) rfl h
  · exact quoted_wideEscape mark c

/-! ## Literals -/

theorem literal_toList (s : String) :
    (literal s).toList =
      quoteMark s.toList ::
        (s.toList.flatMap (escapeChar (quoteMark s.toList)) ++
          [quoteMark s.toList]) := by
  simp [literal]

theorem lineFeed_notMem_literal (s : String) : '\n' ∉ (literal s).toList := by
  have hmark := isQuote_quoteMark s.toList
  have hline : '\n' ≠ quoteMark s.toList := by
    rcases hmark with h | h <;> rw [h] <;> decide
  rw [literal_toList]
  intro h
  simp only [List.mem_cons, List.mem_append, List.mem_flatMap, hline,
    List.not_mem_nil, or_false, false_or] at h
  obtain ⟨c, _, hc⟩ := h
  exact (quoted_escapeChar hmark c).lineFeed_notMem hc

/-- The first mark that is not escaped ends a literal, so that the characters
before it and what follows it are known. -/
theorem flatMap_escapeChar_inj {mark : Char} (hmark : IsQuote mark)
    {cs ds rest rest' : List Char}
    (h : cs.flatMap (escapeChar mark) ++ mark :: rest =
      ds.flatMap (escapeChar mark) ++ mark :: rest') :
    cs = ds ∧ rest = rest' := by
  -- no character starts with the mark once it is escaped
  have hend : ∀ {c : Char} {more tail tail' : List Char},
      mark :: tail = (escapeChar mark c ++ more) ++ tail' → False := by
    intro c more tail tail' heq
    have hc := quoted_escapeChar hmark c
    generalize escapeChar mark c = written at hc heq
    cases hc with
    | itself _ hne _ => simp at heq; exact hne heq.1.symm
    | escaped => simp at heq; exact hmark.ne_backslash heq.1
  induction cs generalizing ds with
  | nil =>
    cases ds with
    | nil => simpa using h
    | cons d ds => rw [List.flatMap_cons] at h; exact (hend h).elim
  | cons c cs ih =>
    cases ds with
    | nil => rw [List.flatMap_cons] at h; exact (hend h.symm).elim
    | cons d ds =>
      rw [List.flatMap_cons, List.flatMap_cons, List.append_assoc,
        List.append_assoc] at h
      have hc := quoted_escapeChar hmark c
      have hd := quoted_escapeChar hmark d
      generalize escapeChar mark c = written at hc h
      generalize escapeChar mark d = written' at hd h
      cases hc with
      | itself hslash _ _ =>
        cases hd with
        | itself =>
          simp only [List.cons_append, List.nil_append, List.cons.injEq] at h
          obtain ⟨rfl, rfl⟩ := ih h.2
          exact ⟨by rw [h.1], rfl⟩
        | escaped => simp at h; exact absurd h.1 hslash
      | escaped letter more _ hread =>
        cases hd with
        | itself hslash _ _ => simp at h; exact absurd h.1.symm hslash
        | escaped letter' more' _ hread' =>
          simp only [List.cons_append, List.cons.injEq, true_and] at h
          obtain ⟨rfl, h⟩ := h
          -- both are read from the same characters
          have hsame := hread 0 (cs.flatMap (escapeChar mark) ++ mark :: rest)
          rw [h, hread'] at hsame
          injection hsame with hsame
          simp only [Prod.mk.injEq, List.cons.injEq, and_true] at hsame
          obtain ⟨rfl, rfl⟩ := ih hsame.2.symm
          exact ⟨by rw [hsame.1], rfl⟩

/-- A literal tells its text, and where it ends. -/
theorem literal_append_inj {s t : String} {rest rest' : List Char}
    (h : (literal s).toList ++ rest = (literal t).toList ++ rest') :
    s = t ∧ rest = rest' := by
  rw [literal_toList, literal_toList] at h
  simp only [List.cons_append, List.append_assoc, List.nil_append,
    List.cons.injEq] at h
  obtain ⟨hmark, h⟩ := h
  rw [← hmark] at h
  obtain ⟨hs, hrest⟩ := flatMap_escapeChar_inj (isQuote_quoteMark _) h
  exact ⟨String.toList_inj.mp hs, hrest⟩

theorem literal_injective {s t : String} (h : literal s = literal t) :
    s = t := by
  have hchars : (literal s).toList ++ [] = (literal t).toList ++ [] := by rw [h]
  exact (literal_append_inj hchars).1

/-! ## Reading a literal -/

theorem ascii_hexDigits (width n : Nat) :
    ∀ c ∈ hexDigits width n, c.toNat < 0x80 ∧ c ≠ '\\' := by
  induction width generalizing n with
  | zero => simp [hexDigits]
  | succ width ih =>
    have key : ∀ e : Fin 16, (Nat.digitChar e).toNat < 0x80 ∧
        Nat.digitChar e ≠ '\\' := by decide
    intro c hc
    rcases List.mem_append.mp hc with hc | hc
    · exact ih (n / 16) c hc
    · rw [List.mem_singleton.mp hc]
      exact key ⟨n % 16, Nat.mod_lt n (by decide)⟩

theorem toAscii_cons {c : Char} (h : c ≠ '\\') (rest : List Char) :
    toAscii (c :: rest) =
      (if c.toNat < 0x80 then [c] else wideEscape c) ++ toAscii rest := by
  cases rest with
  | nil => simp [toAscii]
  | cons d rest => simp [toAscii, h]

theorem toAscii_append {cs : List Char}
    (h : ∀ c ∈ cs, c.toNat < 0x80 ∧ c ≠ '\\') (rest : List Char) :
    toAscii (cs ++ rest) = cs ++ toAscii rest := by
  induction cs with
  | nil => rfl
  | cons c cs ih =>
    obtain ⟨⟨hascii, hslash⟩, hcs⟩ := List.forall_mem_cons.mp h
    rw [List.cons_append, toAscii_cons hslash, if_pos hascii, ih hcs]
    rfl

/-- An escape is in ASCII already. -/
theorem toAscii_escape {letter : Char} {more : List Char}
    (hletter : letter.toNat < 0x80)
    (hmore : ∀ c ∈ more, c.toNat < 0x80 ∧ c ≠ '\\') (rest : List Char) :
    toAscii (('\\' :: letter :: more) ++ rest) =
      ('\\' :: letter :: more) ++ toAscii rest := by
  simp [toAscii, hletter, toAscii_append hmore]

/-- The form of a character in a literal: it is itself, or an escape in ASCII
with one backslash at its front. -/
theorem escapeChar_form {mark : Char} (hmark : IsQuote mark) (c : Char) :
    (escapeChar mark c = [c] ∧ c ≠ '\\') ∨ ∃ letter more,
      escapeChar mark c = '\\' :: letter :: more ∧ letter.toNat < 0x80 ∧
      ∀ d ∈ more, d.toNat < 0x80 ∧ d ≠ '\\' := by
  unfold escapeChar
  split
  · rename_i h
    refine .inr ⟨c, [], rfl, ?_, by simp⟩
    rcases hmark with rfl | rfl <;> simp at h <;> rcases h with rfl | rfl <;>
      decide
  rename_i hplain
  split
  · exact .inr ⟨'n', [], rfl, by decide, by simp⟩
  split
  · exact .inr ⟨'r', [], rfl, by decide, by simp⟩
  split
  · exact .inr ⟨'t', [], rfl, by decide, by simp⟩
  split
  · exact .inl ⟨rfl, by simp at hplain; exact hplain.1⟩
  split
  · exact .inr ⟨'x', _, rfl, by decide, ascii_hexDigits 2 c.toNat⟩
  split
  · exact .inr ⟨'u', _, rfl, by decide, ascii_hexDigits 4 c.toNat⟩
  · exact .inr ⟨'U', _, rfl, by decide, ascii_hexDigits 8 c.toNat⟩

/-- In ASCII, too, a character of a literal is itself or an escape of it. -/
theorem toAscii_escapeChar {mark : Char} (hmark : IsQuote mark) (c : Char) :
    ∃ written, Quoted mark c written ∧ ∀ rest,
      toAscii (escapeChar mark c ++ rest) = written ++ toAscii rest := by
  have hquoted := quoted_escapeChar hmark c
  obtain ⟨hitself, hslash⟩ | ⟨letter, more, hescape, hletter, hmore⟩ :=
    escapeChar_form hmark c
  · rw [hitself] at hquoted ⊢
    by_cases hascii : c.toNat < 0x80
    · refine ⟨[c], hquoted, fun rest => ?_⟩
      rw [List.singleton_append, toAscii_cons hslash, if_pos hascii]
    · refine ⟨wideEscape c, quoted_wideEscape mark c, fun rest => ?_⟩
      rw [List.singleton_append, toAscii_cons hslash, if_neg hascii]
  · rw [hescape] at hquoted ⊢
    exact ⟨_, hquoted, toAscii_escape hletter hmore⟩

/-- Reading takes a character in its written form, and goes on with what
follows. -/
theorem readEscapes_quoted {mark c : Char} {written rest : List Char}
    (h : Quoted mark c written) {steps : Nat} (place : Nat)
    (hsteps : (written ++ rest).length ≤ steps) :
    ∃ more after, rest.length ≤ more ∧
      readEscapes steps place (written ++ rest) =
        (readEscapes more after rest).map (c :: ·) := by
  cases steps with
  | zero => cases h <;> simp at hsteps
  | succ steps =>
    cases h with
    | itself hslash =>
      refine ⟨steps, place + 1, by simpa using hsteps, ?_⟩
      simp [readEscapes, hslash]
    | escaped letter more _ hread =>
      simp only [List.cons_append, List.length_cons, List.length_append]
        at hsteps
      refine ⟨steps, place + 2 + ((more ++ rest).length - rest.length),
        by omega, ?_⟩
      simp only [List.cons_append, readEscapes, hread]
      rfl

theorem readEscapes_toAscii {mark : Char} (hmark : IsQuote mark)
    (cs : List Char) {steps : Nat} (place : Nat)
    (hsteps : (toAscii (cs.flatMap (escapeChar mark))).length ≤ steps) :
    readEscapes steps place (toAscii (cs.flatMap (escapeChar mark))) =
      .ok cs := by
  induction cs generalizing steps place with
  | nil => cases steps <;> rfl
  | cons c cs ih =>
    obtain ⟨written, hquoted, hascii⟩ := toAscii_escapeChar hmark c
    rw [List.flatMap_cons, hascii] at hsteps ⊢
    obtain ⟨more, after, hmore, hread⟩ :=
      readEscapes_quoted hquoted place hsteps
    rw [hread, ih after hmore]
    rfl

/-- The body of a literal stands for the text that the literal quotes. -/
theorem unescape_escapeChar {mark : Char} (hmark : IsQuote mark)
    (text : String) :
    unescape (text.toList.flatMap (escapeChar mark)) = .ok text := by
  unfold unescape
  simp only [readEscapes_toAscii hmark text.toList 0 (Nat.le_refl _)]
  simp [Except.map]

/-- A reader takes the literal for the text: what is between its quotes stands
for it. -/
def ReadsAs (literal text : String) : Prop :=
  ∃ mark body, IsQuote mark ∧ literal.toList = mark :: (body ++ [mark]) ∧
    unescape body = .ok text

theorem literal_readsAs (text : String) : ReadsAs (literal text) text :=
  have hmark := isQuote_quoteMark text.toList
  ⟨_, _, hmark, literal_toList text, unescape_escapeChar hmark text⟩

end ShaderBindings.Text
