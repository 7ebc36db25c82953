import ShaderBindings.Version.Reading

/-!
# Versions — Reading

Which texts are versions and nothing else: two to four numbers with dots between
them. Of such a text the first two numbers are read, and only their lengths can
keep them from it.
-/

namespace ShaderBindings.Version

open Text

variable {s : String} {major minor : List Char} {more : List (List Char)}

/-- The text is written as numbers with dots between them: two, and at most two
more. -/
structure Written (s : String) (major minor : List Char)
    (more : List (List Char)) : Prop where
  text : s.toList = ['.'].intercalate (major :: minor :: more)
  few : more.length ≤ 2
  numbers : ∀ part ∈ major :: minor :: more, isNumber part = true

theorem not_mem_of_isNumber {part : List Char} (h : isNumber part = true) :
    '.' ∉ part := by
  intro hdot
  rw [isNumber, Bool.and_eq_true, List.all_eq_true] at h
  have hdigit : isDigit '.' = true := h.2 '.' hdot
  revert hdigit
  decide

theorem Written.parts_eq (h : Written s major minor more) :
    parts s = major :: minor :: more := by
  rw [parts, h.text]
  refine List.splitOn_intercalate '.' (fun part hpart => ?_) (by simp)
  exact not_mem_of_isNumber (h.numbers part hpart)

theorem written_of_parts (h : parts s = major :: minor :: more)
    (hfew : more.length ≤ 2)
    (hnumbers : (major :: minor :: more).all isNumber = true) :
    Written s major minor more where
  text := by
    rw [← h]
    exact (List.intercalate_splitOn '.').symm
  few := hfew
  numbers := List.all_eq_true.mp hnumbers

/-- Of a version that is written right, the first two numbers count. -/
theorem Written.ofText_eq (h : Written s major minor more) :
    ofText s = ofDigits major minor := by
  have hnumbers : (major :: minor :: more).all isNumber = true :=
    List.all_eq_true.mpr h.numbers
  simp only [ofText, h.parts_eq, hnumbers, h.few, decide_true, Bool.true_and,
    if_true]

/-- Anything else is refused. -/
theorem ofText_of_not_written
    (h : ∀ major minor more, ¬ Written s major minor more) :
    ofText s = .error (.argument s "expected a version like 3.3") := by
  unfold ofText
  split
  next major minor more hparts =>
    rw [if_neg]
    intro hwritten
    rw [Bool.and_eq_true, decide_eq_true_eq] at hwritten
    exact h _ _ _ (written_of_parts hparts hwritten.1 hwritten.2)
  next => rfl

/-! ## Long numbers -/

/-- The first of the numbers that are too long to be read. -/
def firstLong? (numbers : List (List Char)) : Option (List Char) :=
  numbers.find? fun digits => maxIntegerDigits < digits.length

theorem numberOfDigits_of_le {digits : List Char}
    (h : digits.length ≤ maxIntegerDigits) :
    numberOfDigits digits = .ok (digitsValue digits) :=
  if_pos h

theorem numberOfDigits_of_lt {digits : List Char}
    (h : maxIntegerDigits < digits.length) :
    numberOfDigits digits = .error (.tooManyDigits digits.length) :=
  if_neg (Nat.not_le.mpr h)

theorem ofDigits_of_short (h : firstLong? [major, minor] = none) :
    ofDigits major minor = .ok ⟨digitsValue major, digitsValue minor⟩ := by
  simp only [firstLong?, List.find?_eq_none, List.mem_cons, List.not_mem_nil,
    or_false, forall_eq_or_imp, forall_eq, decide_eq_true_eq, Nat.not_lt] at h
  simp only [ofDigits, numberOfDigits_of_le h.1, numberOfDigits_of_le h.2]
  rfl

theorem ofDigits_of_long {digits : List Char}
    (h : firstLong? [major, minor] = some digits) :
    ofDigits major minor = .error (.tooManyDigits digits.length) := by
  by_cases hmajor : maxIntegerDigits < major.length
  · have hfirst : firstLong? [major, minor] = some major := by
      simp [firstLong?, hmajor]
    obtain rfl : major = digits := Option.some.inj (hfirst.symm.trans h)
    simp only [ofDigits, numberOfDigits_of_lt hmajor]
    rfl
  · have hsecond : firstLong? [major, minor] = firstLong? [minor] := by
      simp [firstLong?, hmajor]
    rw [hsecond] at h
    obtain rfl : minor = digits := List.mem_singleton.mp
      (List.mem_of_find?_eq_some h) |>.symm
    have hminor : maxIntegerDigits < minor.length := by
      simpa using List.find?_some h
    simp only [ofDigits, numberOfDigits_of_le (Nat.not_lt.mp hmajor),
      numberOfDigits_of_lt hminor]
    rfl

end ShaderBindings.Version
