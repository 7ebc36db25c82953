import ShaderBindings.Conversion
import ShaderBindings.Proofs.Number.Range

/-!
# Conversion — Overflow

Which values are out of the range of arithmetic. A number is, if no finite
double is nearest to it, or if it is to be an element of an array and no word
of the element type holds it. Nested lists are gone through in order, and the
first element that is no element of the array decides what is wrong with them.
-/

namespace ShaderBindings.Conversion

open Number

variable {v : Value} {t : ElementType}

/-! ## Elements -/

/-- No finite double is nearest to the integer. -/
def Unbounded (n : Int) : Prop :=
  2 ^ 1024 - 2 ^ 970 ≤ n.natAbs

/-- No finite double is nearest to the fraction. -/
def UnboundedFraction (n : Int) (d : Nat) : Prop :=
  0 < d ∧ (2 ^ 1024 - 2 ^ 970) * d ≤ n.natAbs

/-- The value is a number too large for an element of the type. -/
inductive TooLarge : ElementType → Value → Prop
  | integer {f : BinaryFormat} {n : Int} (h : Unbounded n) :
    TooLarge (.float f) (.int n)
  | fraction {f : BinaryFormat} {n : Int} {d : Nat}
      (h : UnboundedFraction n d) : TooLarge (.float f) (.fraction n d)
  | word {signed : Bool} {width : Nat} {v : Value} {n : Int}
      (hn : elementInt v = .ok n) (h : fits signed width n = false) :
    TooLarge (.int signed width) v
  | infinite {signed negative : Bool} {width : Nat} {x : Binary .double}
      (h : x.datum = .infinite negative) :
    TooLarge (.int signed width) (.float x)
  | machineWord {width : Nat} {s : ElementType} {x : s.Carrier} {n : Int}
      (hn : integerOf s x = .ok n) (h : fits true width n = false) :
    TooLarge (.int true width) (.scalar s x)
  | machineInfinite {negative : Bool} {width : Nat} {f : BinaryFormat}
      {x : Binary f} (h : (x.convert .double).datum = .infinite negative) :
    TooLarge (.int true width) (.scalar (.float f) x)

theorem bind_eq_error_iff {ε α β : Type} {f : α → Except ε β} {x : Except ε α}
    {e : ε} : (x >>= f) = .error e ↔
      x = .error e ∨ ∃ a, x = .ok a ∧ f a = .error e := by
  cases x with
  | ok a => simp [Bind.bind, Except.bind]
  | error e' => simp [Bind.bind, Except.bind]

theorem bind_pure_eq_error_iff {ε α β : Type} {g : α → β} {x : Except ε α}
    {e : ε} : (x >>= fun a => pure (g a)) = .error e ↔ x = .error e := by
  cases x <;> simp [Bind.bind, Except.bind, Pure.pure, Except.pure]

theorem map_eq_error_iff {ε α β : Type} {f : α → β} {x : Except ε α} {e : ε} :
    x.map f = .error e ↔ x = .error e := by
  cases x <;> simp [Except.map]

/-- The doubles have no number nearest to a quotient from their limit on. -/
theorem isFinite_ofRatio_double {negative : Bool} {n d : Nat} :
    (Binary.ofRatio negative n d : Binary .double).isFinite = false ↔
      0 < d ∧ (2 ^ 1024 - 2 ^ 970) * d ≤ n := by
  rw [← BinaryFormat.limit_double]
  cases d with
  | zero => cases negative <;> simp [Binary.ofRatio] <;> rfl
  | succ d =>
    rw [← Bool.not_eq_true, Binary.isFinite_ofRatio_iff
      BinaryFormat.isWide_double d.succ_pos, not_lt, and_iff_right d.succ_pos]

theorem doubleOfInt_overflow_iff {n : Int} :
    doubleOfInt n = .error .overflow ↔ Unbounded n := by
  have hfinite : (Binary.ofInt n : Binary .double).isFinite = false ↔
      Unbounded n := by
    rw [Binary.ofInt, isFinite_ofRatio_double, Nat.mul_one,
      and_iff_right Nat.one_pos, Unbounded]
  rw [← hfinite]
  unfold doubleOfInt
  cases h : (Binary.ofInt n : Binary .double).isFinite <;> simp [h]

theorem doubleOfFraction_overflow_iff {n : Int} {d : Nat} :
    doubleOfFraction n d = .error .overflow ↔ UnboundedFraction n d := by
  rw [UnboundedFraction, ← isFinite_ofRatio_double]
  unfold doubleOfFraction
  cases h : (Binary.ofRatio (n < 0) n.natAbs d : Binary .double).isFinite <;>
    simp [h]

theorem integerPart_overflow_iff {x : Binary .double} :
    integerPart x = .error .overflow ↔
      ∃ negative, x.datum = .infinite negative := by
  unfold integerPart
  cases x.datum <;> simp

theorem word_overflow_iff {signed : Bool} {width : Nat} {n : Int} :
    word signed width n = .error .overflow ↔ fits signed width n = false := by
  unfold word
  cases fits signed width n <;> simp

theorem numeral_not_overflow {α : Type} (o : Option α) :
    numeral o ≠ .error .overflow := by
  cases o <;> simp [numeral]

theorem elementInt_overflow_iff :
    elementInt v = .error .overflow ↔
      ∃ x negative, v = .float x ∧ x.datum = .infinite negative := by
  cases v with
  | float x => simp [elementInt, integerPart_overflow_iff]
  | text s | bytes bs => simp [elementInt, numeral_not_overflow]
  | none | bool b | int n | list items | tuple items | dict entries
  | texture t | fraction n d | scalar s x | array a => simp [elementInt]

theorem elementDouble_overflow_iff {f : BinaryFormat} :
    elementDouble v = .error .overflow ↔ TooLarge (.float f) v := by
  constructor
  · intro h
    cases v with
    | int n => exact .integer (doubleOfInt_overflow_iff.mp h)
    | fraction n d => exact .fraction (doubleOfFraction_overflow_iff.mp h)
    | text s | bytes bs => exact (numeral_not_overflow _ h).elim
    | none | bool b | float x | list items | tuple items | dict entries
    | texture t | scalar s x | array a => cases h
  · intro h
    cases h with
    | integer h => exact doubleOfInt_overflow_iff.mpr h
    | fraction h => exact doubleOfFraction_overflow_iff.mpr h

theorem element_overflow_iff (hscalar : ∀ s x, v ≠ .scalar s x) :
    element t v = .error .overflow ↔ TooLarge t v := by
  cases t with
  | bool =>
    refine ⟨fun h => ?_, fun h => ?_⟩ <;> cases h
  | float f =>
    rw [← elementDouble_overflow_iff, element, bind_eq_error_iff]
    refine ⟨?_, .inl⟩
    rintro (h | ⟨x, -, ⟨⟩⟩)
    exact h
  | int signed width =>
    rw [element, bind_eq_error_iff]
    constructor
    · rintro (h | ⟨n, hn, hword⟩)
      · obtain ⟨x, negative, rfl, hx⟩ := elementInt_overflow_iff.mp h
        exact .infinite hx
      · exact .word hn (word_overflow_iff.mp hword)
    · intro h
      cases h with
      | word hn h => exact .inr ⟨_, hn, word_overflow_iff.mpr h⟩
      | infinite h =>
        exact .inl (elementInt_overflow_iff.mpr ⟨_, _, rfl, h⟩)
      | machineWord hn h | machineInfinite h => exact absurd rfl (hscalar _ _)

/-- A number of a machine type is too large only for a signed word. -/
theorem scalarElement_overflow_iff {s : ElementType} {x : s.Carrier} :
    scalarElement s x t = .error .overflow ↔ TooLarge t (.scalar s x) := by
  constructor
  · intro h
    cases t with
    | bool | float f => cases h
    | int signed width =>
      cases signed with
      | false => cases h
      | true =>
        rw [scalarElement, bind_eq_error_iff] at h
        rcases h with h | ⟨n, hn, hword⟩
        · cases s with
          | bool | int signed' width' => cases h
          | float f =>
            obtain ⟨negative, hx⟩ := integerPart_overflow_iff.mp h
            exact .machineInfinite hx
        · exact .machineWord hn (word_overflow_iff.mp hword)
  · intro h
    cases h with
    | word hn h => cases hn
    | machineWord hn h =>
      rw [scalarElement, bind_eq_error_iff]
      exact .inr ⟨_, hn, word_overflow_iff.mpr h⟩
    | machineInfinite h =>
      rw [scalarElement, bind_eq_error_iff]
      exact .inl (integerPart_overflow_iff.mpr ⟨_, h⟩)

/-! ## Nested lists -/

/-- The value is too large, or an item of it is and all items before it are
elements of an array. -/
inductive Overflows (t : ElementType) : Value → Prop
  | element {v : Value} (h : TooLarge t v) : Overflows t v
  | list {before after : List Value} {v : Value}
      (hbefore : ∀ w ∈ before, ∃ elements, elementsOf t w = .ok elements)
      (h : Overflows t v) : Overflows t (.list (before ++ v :: after))
  | tuple {before after : List Value} {v : Value}
      (hbefore : ∀ w ∈ before, ∃ elements, elementsOf t w = .ok elements)
      (h : Overflows t v) : Overflows t (.tuple (before ++ v :: after))

/-- Of the items, the first that is no element overflows. -/
def FirstOverflows (t : ElementType) (items : List Value) : Prop :=
  ∃ before v after, items = before ++ v :: after ∧
    (∀ w ∈ before, ∃ elements, elementsOf t w = .ok elements) ∧ Overflows t v

theorem overflows_list_iff {items : List Value} :
    Overflows t (.list items) ↔ FirstOverflows t items := by
  constructor
  · intro h
    cases h with
    | element h =>
      cases h with
      | word hn _ => cases hn
    | list hbefore h => exact ⟨_, _, _, rfl, hbefore, h⟩
  · rintro ⟨before, v, after, rfl, hbefore, h⟩
    exact .list hbefore h

theorem overflows_tuple_iff {items : List Value} :
    Overflows t (.tuple items) ↔ FirstOverflows t items := by
  constructor
  · intro h
    cases h with
    | element h =>
      cases h with
      | word hn _ => cases hn
    | tuple hbefore h => exact ⟨_, _, _, rfl, hbefore, h⟩
  · rintro ⟨before, v, after, rfl, hbefore, h⟩
    exact .tuple hbefore h

theorem firstOverflows_cons_iff {items : List Value} :
    FirstOverflows t (v :: items) ↔ Overflows t v ∨
      (∃ elements, elementsOf t v = .ok elements) ∧ FirstOverflows t items := by
  constructor
  · rintro ⟨before, w, after, hitems, hbefore, h⟩
    cases before with
    | nil =>
      cases hitems
      exact .inl h
    | cons u before =>
      cases hitems
      obtain ⟨hu, hrest⟩ := List.forall_mem_cons.mp hbefore
      exact .inr ⟨hu, before, w, after, rfl, hrest, h⟩
  · rintro (h | ⟨hv, before, w, after, rfl, hbefore, h⟩)
    · exact ⟨[], v, items, rfl, by simp, h⟩
    · exact ⟨v :: before, w, after, rfl,
        List.forall_mem_cons.mpr ⟨hv, hbefore⟩, h⟩

theorem overflows_iff_of_item (hlist : ∀ items, v ≠ .list items)
    (htuple : ∀ items, v ≠ .tuple items) : Overflows t v ↔ TooLarge t v := by
  constructor
  · intro h
    cases h with
    | element h => exact h
    | list _ _ => exact absurd rfl (hlist _)
    | tuple _ _ => exact absurd rfl (htuple _)
  · exact .element

mutual

theorem elementsOf_overflow_iff (t : ElementType) :
    (v : Value) → (elementsOf t v = .error .overflow ↔ Overflows t v)
  | .list items => by
    rw [overflows_list_iff, elementsOf]
    exact elementsOfAll_overflow_iff t items
  | .tuple items => by
    rw [overflows_tuple_iff, elementsOf]
    exact elementsOfAll_overflow_iff t items
  | .array a => by
    rw [overflows_iff_of_item (by simp) (by simp)]
    refine ⟨fun h => ?_, fun h => ?_⟩
    · simp [elementsOf] at h
    · cases h with
      | word hn _ => cases hn
  | .scalar s x => by
    rw [overflows_iff_of_item (by simp) (by simp), elementsOf,
      bind_pure_eq_error_iff, scalarElement_overflow_iff]
  | .none | .bool _ | .int _ | .float _ | .text _ | .bytes _ | .dict _
  | .texture _ | .fraction _ _ => by
    rw [overflows_iff_of_item (by simp) (by simp), elementsOf,
      bind_pure_eq_error_iff, element_overflow_iff (by simp)]
    all_goals simp

theorem elementsOfAll_overflow_iff (t : ElementType) :
    (items : List Value) →
      (elementsOfAll t items = .error .overflow ↔ FirstOverflows t items)
  | [] => by simp [elementsOfAll, FirstOverflows]
  | v :: rest => by
    rw [firstOverflows_cons_iff, ← elementsOf_overflow_iff t v,
      ← elementsOfAll_overflow_iff t rest, elementsOfAll, bind_eq_error_iff]
    simp only [bind_pure_eq_error_iff, exists_and_right]

end

/-! ## Converters -/

/-- The value is a text or bytes. -/
def isText : Value → Bool
  | .text _ | .bytes _ => true
  | _ => false

/-- A number of a machine type. -/
def isMachineNumber : Value → Bool
  | .scalar .. => true
  | _ => false

theorem dataOf_overflow_iff : dataOf t v = .error .overflow ↔
    isMachineNumber v = false ∧ Overflows t v := by
  cases v with
  | scalar s x => simp [dataOf, isMachineNumber]
  | none | bool b | int n | float x | text s | bytes bs | list items
  | tuple items | dict entries | texture t | fraction n d | array a =>
    simp [dataOf, isMachineNumber, elementsOf_overflow_iff]

theorem commonShape_not_overflow (shapes : List (List Nat)) :
    commonShape shapes ≠ .error .overflow := by
  unfold commonShape
  split
  · simp
  · split <;> simp

mutual

theorem shapeOf_not_overflow : (v : Value) → shapeOf v ≠ .error .overflow
  | .list items | .tuple items => by
    rw [shapeOf, ne_eq, bind_eq_error_iff]
    rintro (h | ⟨shapes, -, h⟩)
    · exact shapesOf_not_overflow items h
    · exact commonShape_not_overflow shapes (bind_pure_eq_error_iff.mp h)
  | .array _ | .none | .bool _ | .int _ | .float _ | .text _ | .bytes _
  | .dict _ | .texture _ | .fraction _ _ | .scalar _ _ => by
    simp [shapeOf]

theorem shapesOf_not_overflow :
    (items : List Value) → shapesOf items ≠ .error .overflow
  | [] => by simp [shapesOf]
  | v :: rest => by
    rw [shapesOf, ne_eq, bind_eq_error_iff]
    rintro (h | ⟨shape, -, h⟩)
    · exact shapeOf_not_overflow v h
    · exact shapesOf_not_overflow rest (bind_pure_eq_error_iff.mp h)

end

/-- The value is nested lists of a common shape that is not too deep. -/
def HasShape (v : Value) : Prop :=
  ∃ shape, shapeOf v = .ok shape ∧ shape.length ≤ maxAxes

theorem toArray_overflow_iff : toArray t v = .error .overflow ↔
    HasShape v ∧ isMachineNumber v = false ∧ Overflows t v := by
  rw [← dataOf_overflow_iff]
  constructor
  · intro h
    rcases bind_eq_error_iff.mp h with h | ⟨shape, hshape, h⟩
    · exact (shapeOf_not_overflow v h).elim
    · by_cases hdeep : shape.length > maxAxes
      · simp only [if_pos hdeep] at h
        cases h
      · simp only [if_neg hdeep] at h
        exact ⟨⟨shape, hshape, by omega⟩, bind_pure_eq_error_iff.mp h⟩
  · rintro ⟨⟨shape, hshape, hdepth⟩, h⟩
    refine bind_eq_error_iff.mpr (.inr ⟨shape, hshape, ?_⟩)
    rw [if_neg (by omega)]
    exact bind_pure_eq_error_iff.mpr h

theorem toArrayOf_overflow_iff {shape : List Nat} :
    toArrayOf shape t v = .error .overflow ↔
      isText v = false ∧ HasShape v ∧ isMachineNumber v = false ∧
        Overflows t v := by
  rw [← toArray_overflow_iff]
  unfold toArrayOf
  split
  · simp [isText]
  · simp [isText]
  · rename_i htext hbytes
    have hitem : isText v = false := by
      cases v with
      | text s => exact (htext s rfl).elim
      | bytes bs => exact (hbytes bs rfl).elim
      | none | bool b | int n | float x | list items | tuple items
      | dict entries | texture t | fraction n d | scalar s x | array a => rfl
    constructor
    · intro h
      rcases bind_eq_error_iff.mp h with h | ⟨a, -, h⟩
      · exact ⟨hitem, h⟩
      · split at h <;> cases h
    · rintro ⟨-, h⟩
      exact bind_eq_error_iff.mpr (.inl h)

theorem toInt_not_overflow (v : Value) : toInt v ≠ .error .overflow := by
  unfold toInt
  split <;> simp

theorem toUint_not_overflow (v : Value) : toUint v ≠ .error .overflow := by
  intro h
  rcases bind_eq_error_iff.mp h with h | ⟨n, -, h⟩
  · exact toInt_not_overflow v h
  · split at h
    · cases h
    · split at h <;> cases h

theorem toBool_not_overflow (v : Value) : toBool v ≠ .error .overflow := by
  unfold toBool
  split
  · simp
  · simp
  · split
    · simp
    · split <;> simp
  · split
    · simp
    · split <;> simp
  · simp

theorem toTexture_not_overflow (v : Value) :
    toTexture v ≠ .error .overflow := by
  unfold toTexture
  split <;> simp

end Conversion

namespace Converter

open Conversion

/-- The value is out of range for the converter. -/
inductive Overflows : Converter → Value → Prop
  | integer {n : Int} (h : Unbounded n) : Overflows .float (.int n)
  | machineInteger {signed : Bool} {width : Nat} {n : Int} (h : Unbounded n) :
    Overflows .float (.scalar (.int signed width) n)
  | fraction {n : Int} {d : Nat} (h : UnboundedFraction n d) :
    Overflows .float (.fraction n d)
  | array {shape : List Nat} {t : Number.ElementType} {v : Value}
      (htext : isText v = false) (hshape : HasShape v)
      (hmachine : isMachineNumber v = false)
      (h : Conversion.Overflows t v) : Overflows (.array shape t) v

theorem toFloat_overflow_iff :
    toFloat v = .error .overflow ↔ Overflows .float v := by
  constructor
  · intro h
    unfold toFloat at h
    split at h
    · exact .integer (doubleOfInt_overflow_iff.mp h)
    · exact .machineInteger (doubleOfInt_overflow_iff.mp h)
    · cases h
    · cases h
    · exact .fraction (doubleOfFraction_overflow_iff.mp h)
    · cases h
  · intro h
    cases h with
    | integer h | machineInteger h => exact doubleOfInt_overflow_iff.mpr h
    | fraction h => exact doubleOfFraction_overflow_iff.mpr h

/-- A conversion is out of the range of arithmetic exactly if its value is out
of the range of the converter. -/
theorem convert_overflow_iff (c : Converter) (v : Value) :
    c.convert v = .error .overflow ↔ c.Overflows v := by
  cases c with
  | bool =>
    rw [convert, map_eq_error_iff]
    exact iff_of_false (toBool_not_overflow v) nofun
  | int =>
    rw [convert, map_eq_error_iff]
    exact iff_of_false (toInt_not_overflow v) nofun
  | uint =>
    rw [convert, map_eq_error_iff]
    exact iff_of_false (toUint_not_overflow v) nofun
  | texture =>
    rw [convert, map_eq_error_iff]
    exact iff_of_false (toTexture_not_overflow v) nofun
  | float => rw [convert, map_eq_error_iff, toFloat_overflow_iff]
  | array shape t =>
    rw [convert, map_eq_error_iff, toArrayOf_overflow_iff]
    constructor
    · rintro ⟨htext, hshape, hmachine, h⟩
      exact .array htext hshape hmachine h
    · intro h
      cases h with
      | array htext hshape hmachine h => exact ⟨htext, hshape, hmachine, h⟩

end Converter

end ShaderBindings
