import Mathlib.Data.List.Basic
import ShaderBindings.Diagnostic

/-!
# Diagnostics — Source indices

What comes in place of the source indices of a log. Position by position it is
the path where an index stands, and the character of the log elsewhere. The same
comes of looking for the pattern of an index from left to right and replacing
each match as it is found, although a match takes the blank before the index
with it.
-/

namespace ShaderBindings.Diagnostic

open Text

variable {path text behind rest out : List Char} {c : Char}

/-! ## Position by position -/

/-- At the position of a text there is a source index: a zero, at the start of
the text or after a blank, with a bracket or a colon and a digit after it. -/
def IndexAt (text : List Char) (i : Nat) : Prop :=
  text[i]? = some '0' ∧ (i = 0 ∨ text[i - 1]?.any isBlank = true) ∧
    (text[i + 1]? = some '(' ∨ text[i + 1]? = some ':') ∧
    text[i + 2]?.any isDigit = true

instance (text : List Char) (i : Nat) : Decidable (IndexAt text i) :=
  inferInstanceAs (Decidable (_ ∧ _ ∧ _ ∧ _))

/-- What is shown for a position of a text. -/
def shownAt (text path : List Char) (i : Nat) : List Char :=
  if IndexAt text i then path else text[i]?.toList

/-- The text begins with a source index. -/
def startsIndex : List Char → Bool
  | c :: rest => c == '0' && lineNumberFollows rest
  | [] => false

theorem lineNumberFollows_iff (rest : List Char) :
    lineNumberFollows rest = true ↔
      (rest[0]? = some '(' ∨ rest[0]? = some ':') ∧
        rest[1]?.any isDigit = true := by
  match rest with
  | [] => simp [lineNumberFollows]
  | [mark] => simp [lineNumberFollows]
  | mark :: c :: rest => simp [lineNumberFollows]

/-- Whether an index begins after some text depends on its last character. -/
theorem indexAt_length_iff (before : List Char) (c : Char)
    (rest : List Char) :
    IndexAt (before ++ c :: rest) before.length ↔
      before.getLast?.all isBlank = true ∧ startsIndex (c :: rest) = true := by
  have hfresh : (before.length = 0 ∨
      (before ++ c :: rest)[before.length - 1]?.any isBlank = true) ↔
        before.getLast?.all isBlank = true := by
    rcases before.eq_nil_or_concat with rfl | ⟨front, last, rfl⟩
    · simp
    · simp
  simp only [IndexAt, hfresh, startsIndex, Bool.and_eq_true, beq_iff_eq,
    lineNumberFollows_iff]
  simp [List.getElem?_append_right, and_left_comm]

theorem replaceIndex_cons (path : List Char) (fresh : Bool) (c : Char)
    (rest : List Char) :
    replaceIndex path fresh (c :: rest) =
      (if fresh && startsIndex (c :: rest) then path else [c]) ++
        replaceIndex path (isBlank c) rest := by
  rw [replaceIndex, startsIndex, Bool.and_assoc]

/-- The rest of a text, after some text before it. -/
theorem replaceIndex_eq_flatMap (path before rest : List Char) :
    replaceIndex path (before.getLast?.all isBlank) rest =
      (List.range' before.length rest.length).flatMap
        (shownAt (before ++ rest) path) := by
  induction rest generalizing before with
  | nil => simp [replaceIndex]
  | cons c rest ih =>
    have hshown : shownAt (before ++ c :: rest) path before.length =
        if before.getLast?.all isBlank && startsIndex (c :: rest) then path
        else [c] := by
      simp [shownAt, indexAt_length_iff]
    have hrest := ih (before ++ [c])
    rw [List.append_cons] at hshown
    rw [replaceIndex_cons, List.append_cons, List.length_cons,
      List.range'_succ, List.flatMap_cons, hshown]
    simpa using hrest

/-! ## From left to right -/

/-- Patterns of texts. -/
inductive Pattern
  /-- Nothing, at the start of a line. -/
  | lineStart
  | one (accepts : Char → Bool)
  | either (first second : Pattern)
  | sequence (first second : Pattern)
  /-- Nothing, where the pattern follows. -/
  | ahead (p : Pattern)

/-- The texts at the front of `rest` that a pattern fits, in the order in which
they are tried. What stands before them is `behind`, its last character
first. -/
def Pattern.fits : Pattern → List Char → List Char → List (List Char)
  | lineStart, behind, _ => if behind.head?.all (· == '\n') then [[]] else []
  | one _, _, [] => []
  | one accepts, _, c :: _ => if accepts c then [[c]] else []
  | either p q, behind, rest => p.fits behind rest ++ q.fits behind rest
  | sequence p q, behind, rest =>
    (p.fits behind rest).flatMap fun u =>
      (q.fits (u.reverse ++ behind) (rest.drop u.length)).map (u ++ ·)
  | ahead p, behind, rest => if (p.fits behind rest).isEmpty then [] else [[]]

/-- A pattern whose matches have a part that is kept, before one that is
replaced. -/
structure Rule where
  kept : Pattern
  replaced : Pattern

/-- Both parts of the first match of a rule. -/
def Rule.first? (r : Rule) (behind rest : List Char) :
    Option (List Char × List Char) :=
  ((r.kept.fits behind rest).flatMap fun u =>
    (r.replaced.fits (u.reverse ++ behind) (rest.drop u.length)).map
      fun v => (u, v)).head?

/-- The matches of a rule in the rest of a text are replaced as they are found
from left to right. What has been put in is not looked into, and what has been
matched is not matched again. -/
inductive Rule.Replaces (r : Rule) (path : List Char) :
    List Char → List Char → List Char → Prop
  | done {behind : List Char} (h : r.first? behind [] = none) :
    r.Replaces path behind [] []
  | found {behind rest u v out : List Char}
      (h : r.first? behind rest = some (u, v)) (hne : u ++ v ≠ [])
      (hrest : r.Replaces path ((u ++ v).reverse ++ behind)
        (rest.drop (u ++ v).length) out) :
    r.Replaces path behind rest (u ++ path ++ out)
  | passed {behind rest out : List Char} {c : Char}
      (h : r.first? behind (c :: rest) = none)
      (hrest : r.Replaces path (c :: behind) rest out) :
    r.Replaces path behind (c :: rest) (c :: out)

/-- The front of a line number: a bracket or a colon, and a digit. -/
def lineNumber : Pattern :=
  .sequence (.one fun c => c == '(' || c == ':') (.one isDigit)

/-- A source index: a line start or a blank, which is kept, and a zero with a
line number after it. -/
def sourceIndex : Rule where
  kept := .either .lineStart (.one isBlank)
  replaced := .sequence (.one (· == '0')) (.ahead lineNumber)

theorem isEmpty_fits_lineNumber (behind rest : List Char) :
    (lineNumber.fits behind rest).isEmpty = !lineNumberFollows rest := by
  match rest with
  | [] => rfl
  | [mark] =>
    cases hmark : mark == '(' || mark == ':' <;>
      simp [lineNumber, Pattern.fits, lineNumberFollows, hmark]
  | mark :: c :: rest =>
    cases hmark : mark == '(' || mark == ':' <;> cases hdigit : isDigit c <;>
      simp [lineNumber, Pattern.fits, lineNumberFollows, hmark, hdigit]

theorem fits_replaced (behind rest : List Char) :
    sourceIndex.replaced.fits behind rest =
      if startsIndex rest then [['0']] else [] := by
  cases rest with
  | nil => rfl
  | cons c rest =>
    by_cases hzero : c = '0'
    · subst hzero
      cases hnumber : lineNumberFollows rest <;>
        simp [sourceIndex, Pattern.fits, startsIndex, isEmpty_fits_lineNumber,
          hnumber]
    · simp [sourceIndex, Pattern.fits, startsIndex, hzero]

theorem first?_sourceIndex (behind rest : List Char) :
    sourceIndex.first? behind rest =
      if behind.head?.all (· == '\n') && startsIndex rest then some ([], ['0'])
      else if rest.head?.any isBlank && startsIndex rest.tail then
        some (rest.take 1, ['0'])
      else none := by
  simp only [Rule.first?, fits_replaced]
  cases hline : behind.head?.all (· == '\n') <;>
    cases hindex : startsIndex rest <;>
    cases rest with
    | nil => simp_all [sourceIndex, Pattern.fits, startsIndex]
    | cons c rest =>
      cases hblank : isBlank c <;> cases hnext : startsIndex rest <;>
        simp_all [sourceIndex, Pattern.fits]

theorem startsIndex_iff : startsIndex rest = true ↔
    ∃ after, rest = '0' :: after ∧ lineNumberFollows after = true := by
  cases rest with
  | nil => simp [startsIndex]
  | cons c rest => simp [startsIndex]

theorem startsIndex_of_isBlank (h : isBlank c = true) :
    startsIndex (c :: rest) = false := by
  refine Bool.eq_false_iff.mpr fun hindex => ?_
  obtain ⟨after, heq, -⟩ := startsIndex_iff.mp hindex
  cases heq
  cases h

/-- A match is the zero of an index, alone or with the blank before it. -/
theorem eq_append_of_first? {u v : List Char}
    (h : sourceIndex.first? behind rest = some (u, v)) :
    v = ['0'] ∧ ∃ after, rest = u ++ '0' :: after ∧
      lineNumberFollows after = true ∧
      (u = [] ∧ behind.head?.all (· == '\n') = true ∨
        ∃ c, u = [c] ∧ isBlank c = true) := by
  rw [first?_sourceIndex] at h
  split at h
  next hfound =>
    obtain ⟨hline, hindex⟩ := Bool.and_eq_true_iff.mp hfound
    obtain ⟨after, rfl, hnumber⟩ := startsIndex_iff.mp hindex
    cases h
    exact ⟨rfl, after, rfl, hnumber, .inl ⟨rfl, hline⟩⟩
  next =>
    split at h
    next hfound =>
      obtain ⟨hblank, hindex⟩ := Bool.and_eq_true_iff.mp hfound
      cases rest with
      | nil => cases hblank
      | cons c rest =>
        obtain ⟨after, rfl, hnumber⟩ := startsIndex_iff.mp hindex
        cases h
        exact ⟨rfl, after, rfl, hnumber, .inr ⟨c, rfl, hblank⟩⟩
    next => cases h

theorem of_first?_eq_none
    (h : sourceIndex.first? behind (c :: rest) = none) :
    (behind.head?.all (· == '\n') && startsIndex (c :: rest)) = false ∧
      (isBlank c && startsIndex rest) = false := by
  rw [first?_sourceIndex] at h
  split at h
  next => cases h
  next hstart =>
    split at h
    next => cases h
    next hblank =>
      exact ⟨Bool.eq_false_iff.mpr hstart, Bool.eq_false_iff.mpr hblank⟩

/-- If an index begins here, the character before it is no blank that has been
passed: with such a blank the index would have been matched. -/
def Unpassed (behind rest : List Char) : Prop :=
  startsIndex rest = true → behind.head?.any isBlank = false

theorem unpassed_zero (behind rest : List Char) :
    Unpassed ('0' :: behind) rest :=
  fun _ => rfl

/-- So an index after a blank, or after nothing, is at the start of the
text. -/
theorem Unpassed.eq_nil (h : Unpassed behind rest)
    (hfresh : behind.head?.all isBlank = true)
    (hindex : startsIndex rest = true) : behind = [] := by
  cases behind with
  | nil => rfl
  | cons c behind =>
    have hblank : isBlank c = true := by simpa using hfresh
    have hpassed := h hindex
    simp [hblank] at hpassed

/-- A line feed is a blank. -/
theorem all_isBlank_of_lineStart (h : behind.head?.all (· == '\n') = true) :
    behind.head?.all isBlank = true := by
  cases behind with
  | nil => rfl
  | cons c behind =>
    obtain rfl : c = '\n' := by simpa using h
    rfl

theorem Rule.Replaces.eq_replaceIndex
    (h : sourceIndex.Replaces path behind rest out)
    (hunpassed : Unpassed behind rest) :
    out = replaceIndex path (behind.head?.all isBlank) rest := by
  induction h with
  | done => rfl
  | @found behind rest u v out h hne hrest ih =>
    obtain ⟨rfl, after, rfl, hnumber, hfront⟩ := eq_append_of_first? h
    have hindex : startsIndex ('0' :: after) = true :=
      startsIndex_iff.mpr ⟨after, rfl, hnumber⟩
    rcases hfront with ⟨rfl, hline⟩ | ⟨c, rfl, hblank⟩
    · obtain rfl := hunpassed.eq_nil (all_isBlank_of_lineStart hline) hindex
      have hout : out = replaceIndex path (isBlank '0') after :=
        ih (unpassed_zero [] after)
      show path ++ out = replaceIndex path true ('0' :: after)
      rw [replaceIndex_cons, hindex, hout]
      rfl
    · have hout : out = replaceIndex path (isBlank '0') after :=
        ih (unpassed_zero (c :: behind) after)
      show c :: (path ++ out) = replaceIndex path _ (c :: '0' :: after)
      rw [replaceIndex_cons, startsIndex_of_isBlank hblank, hblank,
        replaceIndex_cons, hindex, hout, Bool.and_false]
      rfl
  | @passed behind rest out c h hrest ih =>
    obtain ⟨hstart, hblank⟩ := of_first?_eq_none h
    have hnone : (behind.head?.all isBlank && startsIndex (c :: rest)) =
        false := by
      refine Bool.eq_false_iff.mpr fun hfound => ?_
      obtain ⟨hfresh, hindex⟩ := Bool.and_eq_true_iff.mp hfound
      obtain rfl := hunpassed.eq_nil hfresh hindex
      cases hindex.symm.trans hstart
    have hnext : Unpassed (c :: behind) rest := by
      intro hindex
      simpa [hindex] using hblank
    rw [replaceIndex_cons, hnone]
    exact congrArg (c :: ·) (ih hnext)

/-- Looking for matches from left to right comes to an end. -/
theorem exists_replaces (path behind rest : List Char) :
    ∃ out, sourceIndex.Replaces path behind rest out := by
  induction hlength : rest.length using Nat.strongRecOn
    generalizing behind rest with
  | ind n ih =>
    cases hfirst : sourceIndex.first? behind rest with
    | some found =>
      obtain ⟨u, v⟩ := found
      obtain ⟨rfl, after, rfl, -⟩ := eq_append_of_first? hfirst
      have hrest : (u ++ '0' :: after).drop (u ++ ['0']).length = after := by
        simp [List.drop_append]
      obtain ⟨out, hout⟩ := ih after.length (by simp [← hlength]; omega)
        ((u ++ ['0']).reverse ++ behind) after rfl
      exact ⟨_, .found hfirst (by simp) (hrest.symm ▸ hout)⟩
    | none =>
      cases rest with
      | nil => exact ⟨[], .done hfirst⟩
      | cons c rest =>
        obtain ⟨out, hout⟩ := ih rest.length (by simp [← hlength])
          (c :: behind) rest rfl
        exact ⟨c :: out, .passed hfirst hout⟩

theorem replaces_iff (path text out : List Char) :
    sourceIndex.Replaces path [] text out ↔
      out = replaceIndex path true text := by
  have hunpassed : Unpassed [] text := fun _ => rfl
  constructor
  · intro h
    exact h.eq_replaceIndex hunpassed
  · rintro rfl
    obtain ⟨out, hout⟩ := exists_replaces path [] text
    exact hout.eq_replaceIndex hunpassed ▸ hout

/-! ## Whole logs -/

/-- A log is shown position by position, the path in place of each zero of a
source index. It is also what comes of replacing the matches of the pattern of
an index from left to right, and nothing else is. -/
theorem inFile_shows (log path : String) :
    (inFile log path).toList = (List.range log.toList.length).flatMap
      (shownAt log.toList path.toList) ∧
    ∀ out, sourceIndex.Replaces path.toList [] log.toList out ↔
      out = (inFile log path).toList := by
  have htext : (inFile log path).toList =
      replaceIndex path.toList true log.toList := by
    rw [inFile, String.toList_ofList]
  rw [htext]
  refine ⟨?_, fun out => replaces_iff path.toList log.toList out⟩
  rw [List.range_eq_range']
  exact replaceIndex_eq_flatMap path.toList [] log.toList

/-- A path that looks like an index itself is put in as it is. -/
example : inFile "0(1) : a\r0:2\x0b0(3 00(4)" " 0:9" =
    " 0:9(1) : a\r 0:9:2\x0b 0:9(3 00(4)" := by
  decide

end ShaderBindings.Diagnostic
