import ShaderBindings.ModuleText.Loading
import ShaderBindings.Proofs.ModuleText.Decoding

/-!
# Generated modules — Quoted texts

A literal is on one line, whatever counts as the end of a line, and a reader
that comes to it takes it for one token: it does not end before its last quote,
and goes on behind it. What the token says is the text. The source of a stage is
a line of the module.
-/

namespace ShaderBindings

namespace Text

/-! ## Line breaks -/

/-- A character that may be taken for the end of a line. -/
def isLineBreak (c : Char) : Bool :=
  ['\n', '\r', '\x0b', '\x0c', '\x1c', '\x1d', '\x1e', '\u0085', '\u2028',
    '\u2029'].contains c

/-- No line ends in a character that shows as itself, is a digit of an escape or
stands in a word. -/
theorem isLineBreak_of_written {c : Char}
    (h : isPrintable c = true ∨ (∃ n, hexValue? c = some n) ∨
      isWordChar c = true) : isLineBreak c = false := by
  rw [← Bool.not_eq_true]
  intro hbreak
  have hnot : isPrintable c = false ∧ hexValue? c = none ∧
      isWordChar c = false := by
    simp only [isLineBreak, List.contains_iff_mem, List.mem_cons,
      List.not_mem_nil, or_false] at hbreak
    rcases hbreak with rfl | rfl | rfl | rfl | rfl | rfl | rfl | rfl | rfl |
      rfl <;> decide +kernel
  simp [hnot] at h

theorem ne_lineFeed_of_isPrintable {c : Char} (h : isPrintable c = true) :
    c ≠ '\n' := by
  rintro rfl
  cases h

/-! ## Characters of a literal -/

theorem hexValue?_hexDigits (width n : Nat) :
    ∀ d ∈ hexDigits width n, ∃ value, hexValue? d = some value := by
  induction width generalizing n with
  | zero => simp [hexDigits]
  | succ width ih =>
    intro d hd
    rcases List.mem_append.mp hd with hd | hd
    · exact ih (n / 16) d hd
    · rw [List.mem_singleton.mp hd]
      exact ⟨_, hexValue?_digitChar (Nat.mod_lt n (by decide))⟩

/-- How a character stands in a literal: as itself, or as a backslash with
another character and maybe digits. -/
inductive Written (mark c : Char) : List Char → Prop
  | itself (hprint : isPrintable c = true) (hslash : c ≠ '\\')
      (hmark : c ≠ mark) : Written mark c [c]
  | escape {letter : Char} {digits : List Char}
      (hletter : isPrintable letter = true)
      (hdigits : ∀ d ∈ digits, ∃ value, hexValue? d = some value) :
    Written mark c ('\\' :: letter :: digits)

theorem written_escapeChar {mark : Char} (hmark : IsQuote mark) (c : Char) :
    Written mark c (escapeChar mark c) := by
  unfold escapeChar
  split
  · rename_i h
    refine .escape ?_ (by simp)
    rcases hmark with rfl | rfl <;> simp at h <;> rcases h with rfl | rfl <;>
      decide
  rename_i hplain
  split
  · exact .escape (by decide) (by simp)
  split
  · exact .escape (by decide) (by simp)
  split
  · exact .escape (by decide) (by simp)
  split
  · rename_i hprint
    simp only [Bool.or_eq_true, beq_iff_eq, not_or] at hplain
    exact .itself hprint hplain.1 hplain.2
  split
  · exact .escape (by decide) (hexValue?_hexDigits 2 c.toNat)
  split
  · exact .escape (by decide) (hexValue?_hexDigits 4 c.toNat)
  · exact .escape (by decide) (hexValue?_hexDigits 8 c.toNat)

theorem Written.isLineBreak {mark c : Char} {cs : List Char}
    (h : Written mark c cs) : ∀ d ∈ cs, isLineBreak d = false := by
  cases h with
  | itself hprint => simpa using isLineBreak_of_written (.inl hprint)
  | escape hletter hdigits =>
    rw [List.forall_mem_cons, List.forall_mem_cons]
    exact ⟨rfl, isLineBreak_of_written (.inl hletter), fun d hd =>
      isLineBreak_of_written (.inr (.inl (hdigits d hd)))⟩

/-- The first character of one that is written is no quote. -/
theorem Written.head {mark c : Char} {cs : List Char} (h : Written mark c cs)
    (hmark : IsQuote mark) : ∃ d ds, cs = d :: ds ∧ d ≠ mark ∧ d ≠ '\n' := by
  cases h with
  | itself hprint hslash hne =>
    exact ⟨c, [], rfl, hne, ne_lineFeed_of_isPrintable hprint⟩
  | escape => exact ⟨'\\', _, rfl, hmark.ne_backslash.symm, by decide⟩

theorem IsQuote.isLineBreak {mark : Char} (h : IsQuote mark) :
    Text.isLineBreak mark = false := by
  rcases h with rfl | rfl <;> rfl

/-- No line ends in a literal. -/
theorem isLineBreak_literal (s : String) :
    ∀ c ∈ (literal s).toList, isLineBreak c = false := by
  have hmark := isQuote_quoteMark s.toList
  intro c hc
  rw [literal_toList] at hc
  simp only [List.mem_cons, List.mem_append, List.mem_flatMap,
    List.not_mem_nil, or_false] at hc
  obtain rfl | ⟨d, -, hd⟩ | rfl := hc
  · exact hmark.isLineBreak
  · exact (written_escapeChar hmark d).isLineBreak c hd
  · exact hmark.isLineBreak

end Text

namespace ModuleText

open Listing (row)
open Text (IsQuote Written escapeChar hexValue? literal quoteMark)

/-! ## Reading a literal -/

namespace Reader

variable {r : Reader} {opening : Opening} {c : Char} {cs read rest : List Char}

/-- Inside a short literal, after these characters. -/
def inBody (r : Reader) (opening : Opening) (read : List Char) : Reader :=
  { r with mode := .body opening false read 0 false }

/-- A character that neither ends a literal nor escapes the next. -/
def isPlain (opening : Opening) (c : Char) : Prop :=
  c ≠ '\\' ∧ c ≠ opening.mark ∧ c ≠ '\n'

theorem readAll_plain (h : isPlain opening c) :
    readAll (r.inBody opening read) (c :: rest) =
      readAll (r.inBody opening (c :: read)) rest := by
  obtain ⟨hslash, hmark, hline⟩ := h
  simp [readAll, Reader.read, readBody, inBody, hslash, hmark, hline]

theorem readAll_plains (h : ∀ c ∈ cs, isPlain opening c) :
    readAll (r.inBody opening read) (cs ++ rest) =
      readAll (r.inBody opening (cs.reverse ++ read)) rest := by
  induction cs generalizing read with
  | nil => rfl
  | cons c cs ih =>
    obtain ⟨hc, hcs⟩ := List.forall_mem_cons.mp h
    rw [List.cons_append, readAll_plain hc, ih hcs]
    simp

/-- Whatever comes after a backslash is passed. -/
theorem readAll_escaped (hline : c ≠ '\n') :
    readAll (r.inBody opening read) ('\\' :: c :: rest) =
      readAll (r.inBody opening (c :: '\\' :: read)) rest := by
  simp [readAll, Reader.read, readBody, inBody, hline]

theorem isPlain_of_hexValue? (hmark : IsQuote opening.mark) {n : Nat}
    (h : hexValue? c = some n) : isPlain opening c := by
  have key : ∀ d ∈ ['\\', '\'', '"', '\n'], hexValue? d = none := by
    simp [hexValue?]
  have hne {d : Char} (hd : d ∈ ['\\', '\'', '"', '\n']) : c ≠ d := by
    rintro rfl
    simp [key c hd] at h
  refine ⟨hne (by simp), ?_, hne (by simp)⟩
  rcases hmark with hmark | hmark <;> rw [hmark] <;> exact hne (by simp)

/-- A reader inside a literal passes a character of it. -/
theorem readAll_written (hmark : IsQuote opening.mark)
    (h : Written opening.mark c cs) :
    readAll (r.inBody opening read) (cs ++ rest) =
      readAll (r.inBody opening (cs.reverse ++ read)) rest := by
  cases h with
  | itself hprint hslash hne =>
    exact readAll_plain ⟨hslash, hne, Text.ne_lineFeed_of_isPrintable hprint⟩
  | @escape letter digits hletter hdigits =>
    have hline := Text.ne_lineFeed_of_isPrintable hletter
    rw [List.cons_append, List.cons_append, readAll_escaped hline,
      readAll_plains fun d hd => ?_]
    · simp
    · obtain ⟨value, hvalue⟩ := hdigits d hd
      exact isPlain_of_hexValue? hmark hvalue

theorem readAll_body (hmark : IsQuote opening.mark) (cs : List Char) :
    readAll (r.inBody opening read)
        (cs.flatMap (escapeChar opening.mark) ++ rest) =
      readAll (r.inBody opening
        ((cs.flatMap (escapeChar opening.mark)).reverse ++ read)) rest := by
  induction cs generalizing read with
  | nil => rfl
  | cons c cs ih =>
    rw [List.flatMap_cons, List.append_assoc,
      readAll_written hmark (Text.written_escapeChar hmark c), ih]
    simp

/-- The reader with a literal as its last token. -/
def withLiteral (r : Reader) (body : List Char) : Reader :=
  { r.add (.literal "" body) r.line with mode := .between }

/-- A quote that is not escaped ends a literal. -/
theorem readAll_close (hmark : IsQuote c) :
    readAll (r.inBody ⟨"", c, r.line⟩ read) (c :: rest) =
      readAll (r.withLiteral read.reverse) rest := by
  have hslash := hmark.ne_backslash
  have hline : c ≠ '\n' := by
    rcases hmark with rfl | rfl <;> decide
  simp only [readAll, Reader.read, readBody, inBody, withLiteral, add,
    beq_iff_eq, hslash, hline, if_false, if_true, Bool.false_eq_true,
    Bool.not_false]

theorem readAll_between {next : Reader} (hmode : r.mode = .between)
    (h : r.readBetween c = .ok next) (rest : List Char) :
    readAll r (c :: rest) = readAll next rest := by
  simp [readAll, Reader.read, hmode, h]

/-- The first quote. -/
theorem readAll_open (hmode : r.mode = .between) (hmark : IsQuote c) :
    readAll r (c :: rest) =
      readAll { r with mode := .quotes ⟨"", c, r.line⟩ 1 } rest := by
  refine readAll_between hmode ?_ rest
  rcases hmark with rfl | rfl <;> rfl

/-- A quote with another character after it starts a short literal. -/
theorem readAll_short (h : c ≠ opening.mark) (hline : c ≠ '\n') :
    readAll { r with mode := .quotes opening 1 } (c :: rest) =
      readAll (r.inBody opening []) (c :: rest) := by
  by_cases hslash : c = '\\'
  · subst hslash
    simp [readAll, Reader.read, readBody, inBody, h]
  · simp [readAll, Reader.read, readBody, inBody, h, hline, hslash]

/-- Two quotes with another character after them are an empty literal. -/
theorem readAll_empty {mark : Char} {next : Reader} (h : c ≠ mark)
    (hnext : (r.withLiteral []).readBetween c = .ok next) :
    readAll { r with mode := .quotes ⟨"", mark, r.line⟩ 1 }
        (mark :: c :: rest) = readAll next rest := by
  rw [withLiteral, add] at hnext
  simp [readAll, Reader.read, h, add, hnext]

/-- A literal of at least one character is passed up to its last quote. -/
theorem readAll_nonempty {mark : Char} (hmark : IsQuote mark) (c : Char)
    (cs : List Char) :
    readAll { r with mode := .quotes ⟨"", mark, r.line⟩ 1 }
        ((c :: cs).flatMap (escapeChar mark) ++ mark :: rest) =
      readAll (r.withLiteral ((c :: cs).flatMap (escapeChar mark))) rest := by
  obtain ⟨d, ds, hwritten, hfirst, hline⟩ :=
    (Text.written_escapeChar hmark c).head hmark
  have hbody : (c :: cs).flatMap (escapeChar mark) =
      d :: (ds ++ cs.flatMap (escapeChar mark)) := by
    rw [List.flatMap_cons, hwritten, List.cons_append]
  have hshort : readAll { r with mode := .quotes ⟨"", mark, r.line⟩ 1 }
        ((c :: cs).flatMap (escapeChar mark) ++ mark :: rest) =
      readAll (r.inBody ⟨"", mark, r.line⟩ [])
        ((c :: cs).flatMap (escapeChar mark) ++ mark :: rest) := by
    rw [hbody, List.cons_append, readAll_short hfirst hline]
  rw [hshort, readAll_body hmark, readAll_close hmark, List.append_nil,
    List.reverse_reverse]

/-- The body of the literal of a text. -/
def bodyOf (text : String) : List Char :=
  text.toList.flatMap (escapeChar (quoteMark text.toList))

/-- Between tokens, a reader takes a literal for one token and goes on with what
follows, unless that is a quote. -/
theorem readAll_literal {next : Reader} (hmode : r.mode = .between)
    (text : String) (hc : ¬ IsQuote c)
    (hnext : (r.withLiteral (bodyOf text)).readBetween c = .ok next)
    (rest : List Char) :
    readAll r ((literal text).toList ++ c :: rest) = readAll next rest := by
  have hmark := Text.isQuote_quoteMark text.toList
  have hliteral : (literal text).toList ++ c :: rest =
      quoteMark text.toList ::
        (bodyOf text ++ quoteMark text.toList :: c :: rest) := by
    simp [Text.literal_toList, bodyOf]
  rw [hliteral, readAll_open hmode hmark]
  unfold bodyOf at hnext ⊢
  generalize quoteMark text.toList = mark at hmark hnext ⊢
  generalize text.toList = cs at hnext ⊢
  cases cs with
  | nil =>
    have hne : c ≠ mark := by
      rintro rfl
      exact hc hmark
    exact readAll_empty hne hnext
  | cons d ds =>
    rw [readAll_nonempty hmark d ds]
    exact readAll_between rfl hnext rest

end Reader

/-- A literal tells a text: no line ends in it, and a reader takes it for one
token, which says the text. -/
structure Quotes (literal text : String) : Prop where
  oneLine : ∀ c ∈ literal.toList, Text.isLineBreak c = false
  /-- The token ends with the last quote, as none is left open before. -/
  token : ∃ mark body, IsQuote mark ∧
    literal.toList = mark :: (body ++ [mark]) ∧
    contentOf? "" body = .ok (some text) ∧
    ∀ (r next : Reader) c rest, r.mode = .between → ¬ IsQuote c →
      (r.withLiteral body).readBetween c = .ok next →
      Reader.readAll r (literal.toList ++ c :: rest) = Reader.readAll next rest

theorem quotes_literal (text : String) : Quotes (literal text) text where
  oneLine := Text.isLineBreak_literal text
  token := by
    have hmark := Text.isQuote_quoteMark text.toList
    refine ⟨_, Reader.bodyOf text, hmark, Text.literal_toList text, ?_, ?_⟩
    · simp [contentOf?, Reader.bodyOf, Text.unescape_escapeChar hmark text,
        Except.map]
    · exact fun r next c rest hmode hc hnext =>
        Reader.readAll_literal hmode text hc hnext rest

/-! ## Lines of a module -/

/-- A line of a text: it comes after the end of another, or first, and no line
ends in it. -/
structure IsLine (text : List Char) (line : String) : Prop where
  unbroken : ∀ c ∈ line.toList, Text.isLineBreak c = false
  placed : ∃ before after, text = before ++ (line.toList ++ '\n' :: after) ∧
    (before = [] ∨ before.getLast? = some '\n')

theorem intercalate_append_eq_flatMap {lines : List (List Char)}
    (h : lines ≠ []) :
    ['\n'].intercalate lines ++ ['\n'] = lines.flatMap (· ++ ['\n']) := by
  induction lines with
  | nil => exact absurd rfl h
  | cons line rest ih =>
    cases rest with
    | nil => simp
    | cons next rest =>
      rw [List.intercalate_cons_cons, List.append_assoc, ih (by simp)]
      rfl

theorem getLast?_flatMap_append (lines : List (List Char)) :
    lines.flatMap (· ++ ['\n']) = [] ∨
      (lines.flatMap (· ++ ['\n'])).getLast? = some '\n' := by
  rcases List.eq_nil_or_concat lines with rfl | ⟨front, last, rfl⟩
  · exact .inl rfl
  · right
    simp [List.flatMap_append]

/-- A line of a listing is a line of its text. -/
theorem isLine_text {l : Listing} {line : String} (h : line ∈ l.lines)
    (hbreak : ∀ c ∈ line.toList, Text.isLineBreak c = false) :
    IsLine l.text.toList line where
  unbroken := hbreak
  placed := by
    obtain ⟨above, below, hlines⟩ := List.append_of_mem h
    refine ⟨(above.map String.toList).flatMap (· ++ ['\n']),
      (below.map String.toList).flatMap (· ++ ['\n']), ?_,
      getLast?_flatMap_append _⟩
    have hne : l.lines.map String.toList ≠ [] := by simp [hlines]
    have htext : l.text.toList =
        (l.lines.map String.toList).flatMap (· ++ ['\n']) := by
      rw [← intercalate_append_eq_flatMap hne, Listing.text,
        String.toList_append, String.toList_intercalate]
      rfl
    simp [htext, hlines, List.flatMap_append]

/-- A row of items is a line of what is rendered of them. -/
theorem isLine_render {items : List Item} {line : String}
    (h : line ∈ Item.rows items)
    (hbreak : ∀ c ∈ line.toList, Text.isLineBreak c = false) :
    IsLine (Item.writeAll items {}).render.toList line := by
  obtain ⟨more, hlines, hrows⟩ := Item.adds_writeAll items {}
  have hmem : line ∈ (Item.writeAll items {}).lines.filter (· ≠ "") := by
    rw [hlines, List.nil_append, hrows]
    exact h
  rw [← Listing.filter_trimEnd] at hmem
  exact isLine_text (List.mem_filter.mp hmem).1 hbreak

theorem isLineBreak_row {level : Int} {text : String}
    (h : ∀ c ∈ text.toList, Text.isLineBreak c = false) :
    ∀ c ∈ (row (level, text)).toList, Text.isLineBreak c = false := by
  intro c hc
  rw [row_toList] at hc
  rcases List.mem_append.mp hc with hc | hc
  · rw [List.eq_of_mem_replicate hc]
    rfl
  · exact h c hc

/-- The source of a stage is a line of the module of a class that has it. -/
theorem isLine_source {plan : Plan} {s : PlannedStage}
    (hreload : plan.options.reload = false) (hs : s ∈ plan.stages)
    (hplain : IsPlain s.id) (version : String) :
    IsLine (ofPlan version plan).toList
      (row (1, "_" ++ s.id ++ "_source = " ++ literal s.stage.text)) := by
  have htext : "_" ++ s.id ++ "_source = " ++ literal s.stage.text =
      sourceText plan.options.reload s := by
    simp [sourceText, hreload, String.append_assoc]
  refine isLine_render ?_ (isLineBreak_row ?_)
  · rw [rows_items, rowsBelow_eq, htext]
    simp only [List.mem_append, List.mem_cons, List.mem_map]
    exact .inr (.inr (.inr (.inr (.inl (.inr ⟨s, hs, rfl⟩)))))
  · have hbefore : ∀ c ∈ "_".toList, Text.isLineBreak c = false := by
      simp [Text.isLineBreak]
    have hafter : ∀ c ∈ "_source = ".toList, Text.isLineBreak c = false := by
      simp [Text.isLineBreak]
    simp only [String.toList_append, List.forall_mem_append]
    refine ⟨⟨⟨hbefore, fun c hc => ?_⟩, hafter⟩,
      Text.isLineBreak_literal s.stage.text⟩
    exact Text.isLineBreak_of_written (.inr (.inr (hplain c hc)))

end ModuleText

end ShaderBindings
