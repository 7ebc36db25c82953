import ShaderBindings.Proofs.Conversion.Form
import ShaderBindings.Proofs.Number.Exact

/-!
# Conversion — Stability

What a converter gives has the form of the type down to its numbers: an array
has as many of them as its lengths say, and each is one that the element type
has. A converter leaves a value of that form alone, so what has been converted
once can be converted again, and is the same.
-/

namespace ShaderBindings

open Number

variable {v : Value}

/-! ## Values -/

mutual

/-- The arrays in the value have as many numbers as their lengths say. -/
def Value.Sound : Value → Prop
  | .list items | .tuple items => soundAll items
  | .array a => a.Full
  | _ => True

/-- So have the arrays in each of the values. -/
def soundAll : List Value → Prop
  | [] => True
  | v :: rest => v.Sound ∧ soundAll rest

end

namespace Conversion

variable {t : ElementType}

/-! ## Elements -/

theorem word_holds {signed : Bool} {width : Nat} {n m : Int}
    (h : word signed width n = .ok m) :
    (ElementType.int signed width).Holds m := by
  unfold word at h
  by_cases hfits : fits signed width n = true
  · rw [if_pos hfits] at h
    cases h
    exact hfits
  · rw [if_neg hfits] at h
    cases h

theorem element_holds {x : t.Carrier} (h : element t v = .ok x) :
    t.Holds x := by
  cases t with
  | bool => trivial
  | int signed width =>
    obtain ⟨n, -, h⟩ := bind_ok h
    exact word_holds h
  | float f =>
    obtain ⟨d, -, h⟩ := bind_ok h
    cases h
    exact Binary.eq_nan_of_datum_ofDatum

theorem scalarElement_holds (ht : t.Sized) {s : ElementType} {y : s.Carrier}
    {x : t.Carrier} (h : scalarElement s y t = .ok x) : t.Holds x := by
  have hcast {x : t.Carrier} (h : (.ok (cast s y t) : Except Fault _) = .ok x) :
      t.Holds x := by
    cases h
    exact ElementType.holds_cast ht y
  cases t with
  | bool => trivial
  | int signed width =>
    cases signed with
    | false => exact hcast h
    | true =>
      obtain ⟨n, -, h⟩ := bind_ok h
      exact word_holds h
  | float f => exact hcast h

theorem mem_singleton_of_bind {α : Type} {x : Except Fault α} {xs : List α}
    (h : (do return [← x]) = .ok xs) : ∃ a, x = .ok a ∧ xs = [a] := by
  obtain ⟨a, ha, h⟩ := bind_ok h
  cases h
  exact ⟨a, ha, rfl⟩

mutual

/-- The element type has every number that is made of a value. -/
theorem elementsOf_holds (ht : t.Sized) : (v : Value) → {xs : List t.Carrier} →
    elementsOf t v = .ok xs → ∀ x ∈ xs, t.Holds x
  | .list items, xs, h | .tuple items, xs, h => by
    rw [elementsOf] at h
    exact elementsOfAll_holds ht items h
  | .array a, xs, h => by
    rw [elementsOf] at h
    cases h
    intro x hx
    obtain ⟨y, -, rfl⟩ := List.mem_map.mp hx
    exact ElementType.holds_cast ht y
  | .scalar s y, xs, h => by
    rw [elementsOf] at h
    obtain ⟨x, hx, rfl⟩ := mem_singleton_of_bind h
    simpa using scalarElement_holds ht hx
  | .none, xs, h | .bool _, xs, h | .int _, xs, h | .float _, xs, h
  | .text _, xs, h | .bytes _, xs, h | .dict _, xs, h | .texture _, xs, h
  | .fraction _ _, xs, h => by
    rw [elementsOf] at h
    · obtain ⟨x, hx, rfl⟩ := mem_singleton_of_bind h
      simpa using element_holds hx
    all_goals simp

theorem elementsOfAll_holds (ht : t.Sized) : (items : List Value) →
    {xs : List t.Carrier} → elementsOfAll t items = .ok xs →
    ∀ x ∈ xs, t.Holds x
  | [], xs, h => by
    cases h
    simp
  | v :: rest, xs, h => by
    rw [elementsOfAll] at h
    obtain ⟨first, hfirst, h⟩ := bind_ok h
    obtain ⟨others, hothers, h⟩ := bind_ok h
    cases h
    intro x hx
    rcases List.mem_append.mp hx with hx | hx
    · exact elementsOf_holds ht v hfirst x hx
    · exact elementsOfAll_holds ht rest hothers x hx

end

theorem dataOf_holds (ht : t.Sized) {xs : List t.Carrier}
    (h : dataOf t v = .ok xs) : ∀ x ∈ xs, t.Holds x := by
  unfold dataOf at h
  split at h
  · cases h
    simpa using ElementType.holds_cast ht _
  · exact elementsOf_holds ht v h

/-! ## Lengths -/

theorem commonShape_ok {shapes : List (List Nat)} {shape : List Nat}
    (h : commonShape shapes = .ok shape) : ∀ other ∈ shapes, other = shape := by
  cases shapes with
  | nil => simp
  | cons first rest =>
    simp only [commonShape] at h
    by_cases hall : rest.all (· == first) = true
    · rw [if_pos hall] at h
      cases h
      intro other hother
      rcases List.mem_cons.mp hother with rfl | hrest
      · rfl
      · simpa using List.all_eq_true.mp hall other hrest
    · rw [if_neg hall] at h
      cases h

mutual

/-- As many numbers are made of a value as its shape says. -/
theorem elementsOf_length : (v : Value) → {shape : List Nat} →
    {xs : List t.Carrier} → v.Sound → shapeOf v = .ok shape →
    elementsOf t v = .ok xs → xs.length = shape.foldr (· * ·) 1
  | .list items, shape, xs, hsound, hshape, h
  | .tuple items, shape, xs, hsound, hshape, h => by
    rw [shapeOf] at hshape
    rw [elementsOf] at h
    obtain ⟨shapes, hshapes, hshape⟩ := bind_ok hshape
    obtain ⟨common, hcommon, hshape⟩ := bind_ok hshape
    cases hshape
    exact elementsOfAll_length items hsound hshapes (commonShape_ok hcommon) h
  | .array a, shape, xs, hsound, hshape, h => by
    rw [elementsOf] at h
    cases hshape
    cases h
    exact (List.length_map _).trans hsound
  | .scalar s y, shape, xs, hsound, hshape, h => by
    rw [elementsOf] at h
    obtain ⟨x, -, rfl⟩ := mem_singleton_of_bind h
    cases hshape
    rfl
  | .none, shape, xs, hsound, hshape, h
  | .bool _, shape, xs, hsound, hshape, h
  | .int _, shape, xs, hsound, hshape, h
  | .float _, shape, xs, hsound, hshape, h
  | .text _, shape, xs, hsound, hshape, h
  | .bytes _, shape, xs, hsound, hshape, h
  | .dict _, shape, xs, hsound, hshape, h
  | .texture _, shape, xs, hsound, hshape, h
  | .fraction _ _, shape, xs, hsound, hshape, h => by
    rw [elementsOf] at h
    · obtain ⟨x, -, rfl⟩ := mem_singleton_of_bind h
      cases hshape
      rfl
    all_goals simp

/-- Values of one shape give as many numbers each. -/
theorem elementsOfAll_length : (items : List Value) →
    {shapes : List (List Nat)} → {shape : List Nat} → {xs : List t.Carrier} →
    soundAll items → shapesOf items = .ok shapes →
    (∀ other ∈ shapes, other = shape) → elementsOfAll t items = .ok xs →
    xs.length = items.length * shape.foldr (· * ·) 1
  | [], shapes, shape, xs, hsound, hshapes, hall, h => by
    cases h
    simp
  | v :: rest, shapes, shape, xs, hsound, hshapes, hall, h => by
    rw [shapesOf] at hshapes
    rw [elementsOfAll] at h
    obtain ⟨first, hfirst, hshapes⟩ := bind_ok hshapes
    obtain ⟨others, hothers, hshapes⟩ := bind_ok hshapes
    cases hshapes
    obtain ⟨ys, hys, h⟩ := bind_ok h
    obtain ⟨zs, hzs, h⟩ := bind_ok h
    cases h
    obtain ⟨rfl, hall⟩ := List.forall_mem_cons.mp hall
    have hv := elementsOf_length v hsound.1 hfirst hys
    have hrest := elementsOfAll_length rest hsound.2 hothers hall hzs
    rw [List.length_append, hv, hrest, List.length_cons, Nat.succ_mul,
      Nat.add_comm]

end

theorem dataOf_length {shape : List Nat} {xs : List t.Carrier}
    (hsound : v.Sound) (hshape : shapeOf v = .ok shape)
    (h : dataOf t v = .ok xs) : xs.length = shape.foldr (· * ·) 1 := by
  unfold dataOf at h
  split at h
  · cases hshape
    cases h
    rfl
  · exact elementsOf_length v hsound hshape h

/-! ## Arrays -/

/-- An array that was made of a value has its own shape, and numbers that the
element type has. -/
theorem toArray_ok {a : Number.Array} (ht : t.Sized) (h : toArray t v = .ok a) :
    a.element = t ∧ (∀ x ∈ a.data, a.element.Holds x) ∧ (v.Sound → a.Full) := by
  obtain ⟨shape, hshape, h⟩ := bind_ok h
  by_cases hdeep : shape.length > maxAxes
  · simp only [if_pos hdeep] at h
    obtain ⟨_, ⟨⟩, -⟩ := bind_ok h
  · simp only [if_neg hdeep] at h
    obtain ⟨data, hdata, h⟩ := bind_ok h
    cases h
    refine ⟨rfl, dataOf_holds ht hdata, fun hsound => ?_⟩
    have hlength := dataOf_length hsound hshape hdata
    show data.length = (if shape.isEmpty then [1] else shape).foldr (· * ·) 1
    cases shape with
    | nil => exact hlength
    | cons n rest => exact hlength

theorem toArray_of_toArrayOf {shape : List Nat} {a : Number.Array}
    (h : toArrayOf shape t v = .ok a) : toArray t v = .ok a := by
  unfold toArrayOf at h
  split at h
  · cases h
  · cases h
  · obtain ⟨b, hb, h⟩ := bind_ok h
    by_cases hshape : b.shape = shape
    · rw [if_pos hshape] at h
      cases h
      exact hb
    · rw [if_neg hshape] at h
      cases h

/-- An array of the shape that is asked for is made of itself. -/
theorem toArrayOf_self {a : Number.Array} (hdeep : a.shape.length ≤ maxAxes)
    (hnonempty : a.shape ≠ []) (ht : a.element.Sized)
    (h : ∀ x ∈ a.data, a.element.Holds x) :
    toArrayOf a.shape a.element (.array a) = .ok a := by
  have hdata : dataOf a.element (.array a) = .ok a.data :=
    congrArg Except.ok (Array.cast_data_self ht h)
  have hshape : a.shape.isEmpty = false := by simpa using hnonempty
  have hself : toArray a.element (.array a) = .ok a := by
    unfold toArray
    simp only [shapeOf, hdata, hshape, Bind.bind, Except.bind]
    rw [if_neg (by omega)]
    rfl
  unfold toArrayOf
  simp only [hself, Bind.bind, Except.bind, if_true]
  rfl

end Conversion

namespace UniformType

/-- The value has the form of the type, down to its numbers. -/
structure Regular (t : UniformType) (stored : Stored) : Prop where
  fits : t.Fits stored
  array : ∀ a, stored = .array a → a.Regular

variable {t : UniformType} {stored : Stored}

theorem sized_element (s : Scalar) : s.element.Sized := by
  cases s <;> first | trivial | exact (by decide : 0 < 32)

theorem defaultValue_regular (t : UniformType) : t.Regular t.defaultValue where
  fits := t.defaultValue_fits
  array := by
    intro a ha
    cases t with
    | scalar s => cases s <;> cases ha
    | vector size component | matrix rows cols component =>
      cases ha
      exact Array.zeros_regular (sized_element _) _
    | texture => cases ha

theorem convert_array {a : Number.Array}
    (h : t.converter.convert v = .ok (.array a)) :
    (∀ x ∈ a.data, a.element.Holds x) ∧ (v.Sound → a.Full) := by
  cases t with
  | scalar s =>
    cases s with
    | bool | int | uint | float | double =>
      obtain ⟨_, -, ⟨⟩⟩ := Conversion.map_ok h
  | vector size component | matrix rows cols component =>
    obtain ⟨b, hb, ⟨⟩⟩ := Conversion.map_ok h
    exact (Conversion.toArray_ok (sized_element _)
      (Conversion.toArray_of_toArrayOf hb)).2
  | texture => obtain ⟨_, -, ⟨⟩⟩ := Conversion.map_ok h

/-- What the converter of a type gives is regular. -/
theorem convert_regular (hsound : v.Sound)
    (h : t.converter.convert v = .ok stored) : t.Regular stored where
  fits := convert_fits h
  array := by
    rintro a rfl
    obtain ⟨hholds, hfull⟩ := convert_array h
    exact ⟨hfull hsound, hholds⟩

/-- The converter of a type leaves a value of its form alone. -/
theorem Fits.convert_value (hfits : t.Fits stored)
    (hholds : ∀ a, stored = .array a → ∀ x ∈ a.data, a.element.Holds x) :
    t.converter.convert stored.value = .ok stored := by
  cases hfits with
  | bool b | int n | float x | double x | texture t => rfl
  | @uint n h =>
    have hrange : 0 ≤ n ∧ n < Nat.pow 2 32 := by
      simpa [fits] using h
    show (Conversion.toUint (.int n)).map Stored.int = _
    simp only [Conversion.toUint, Conversion.toInt, Bind.bind, Except.bind,
      if_pos hrange]
    rfl
  | @vector size component a helement hshape =>
    have haxes : a.shape.length ≤ Conversion.maxAxes := by
      simp [hshape, Conversion.maxAxes]
    have hself := Conversion.toArrayOf_self haxes (by simp [hshape])
      (helement ▸ sized_element component) (hholds a rfl)
    rw [hshape, helement] at hself
    exact congrArg (Except.map Stored.array) hself
  | @matrix rows cols component a helement hshape =>
    have haxes : a.shape.length ≤ Conversion.maxAxes := by
      simp [hshape, Conversion.maxAxes]
    have hself := Conversion.toArrayOf_self haxes (by simp [hshape])
      (helement ▸ sized_element component.scalar) (hholds a rfl)
    rw [hshape, helement] at hself
    exact congrArg (Except.map Stored.array) hself

/-- What a converter has accepted it accepts again, and leaves it alone. -/
theorem convert_convert (h : t.converter.convert v = .ok stored) :
    t.converter.convert stored.value = .ok stored := by
  refine (convert_fits h).convert_value ?_
  rintro a rfl
  exact (convert_array h).1

theorem Regular.convert_value (h : t.Regular stored) :
    t.converter.convert stored.value = .ok stored :=
  h.fits.convert_value fun a ha => (h.array a ha).holds

end UniformType

end ShaderBindings
