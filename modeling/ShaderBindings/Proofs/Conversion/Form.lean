import ShaderBindings.Binding.Drawing

/-!
# Conversion — Form

The form of the values that uniforms of a type hold: it is that of the value
they start with, and of everything that was converted. So whatever is stored
can be passed, by the call for the type.
-/

namespace ShaderBindings

variable {v : Value}

namespace Conversion

variable {ε α β : Type}

theorem map_ok {f : α → β} {x : Except ε α} {b : β} (h : x.map f = .ok b) :
    ∃ a, x = .ok a ∧ b = f a := by
  cases x with
  | ok a =>
    cases h
    exact ⟨a, rfl, rfl⟩
  | error e => cases h

theorem bind_ok {f : α → Except ε β} {x : Except ε α} {b : β}
    (h : (x >>= f) = .ok b) : ∃ a, x = .ok a ∧ f a = .ok b := by
  cases x with
  | ok a => exact ⟨a, rfl, h⟩
  | error e => cases h

theorem toUint_range {n : Int} (h : toUint v = .ok n) :
    Number.fits false 32 n = true := by
  obtain ⟨m, -, h⟩ := bind_ok h
  by_cases hrange : 0 ≤ m ∧ m < Nat.pow 2 32
  · rw [if_pos hrange] at h
    cases h
    simpa [Number.fits] using hrange
  · rw [if_neg hrange] at h
    split at h <;> cases h

theorem toArray_element {t : Number.ElementType} {a : Number.Array}
    (h : toArray t v = .ok a) : a.element = t := by
  obtain ⟨shape, -, h⟩ := bind_ok h
  by_cases hdeep : shape.length > maxAxes
  · simp only [if_pos hdeep] at h
    obtain ⟨_, ⟨⟩, -⟩ := bind_ok h
  · simp only [if_neg hdeep] at h
    obtain ⟨data, -, h⟩ := bind_ok h
    cases h
    rfl

/-- An array that was converted has the type and the shape that were asked
for. -/
theorem toArrayOf_form {shape : List Nat} {t : Number.ElementType}
    {a : Number.Array} (h : toArrayOf shape t v = .ok a) :
    a.element = t ∧ a.shape = shape := by
  unfold toArrayOf at h
  split at h
  · cases h
  · cases h
  · obtain ⟨b, hb, h⟩ := bind_ok h
    by_cases hshape : b.shape = shape
    · rw [if_pos hshape] at h
      cases h
      exact ⟨toArray_element hb, hshape⟩
    · rw [if_neg hshape] at h
      cases h

end Conversion

namespace UniformType

/-- The value has the form that uniforms of the type have. -/
inductive Fits : UniformType → Stored → Prop
  | bool (b : Bool) : Fits (.scalar .bool) (.bool b)
  | int (n : Int) : Fits (.scalar .int) (.int n)
  | uint {n : Int} (h : Number.fits false 32 n = true) :
    Fits (.scalar .uint) (.int n)
  | float (x : Number.Binary .double) : Fits (.scalar .float) (.float x)
  | double (x : Number.Binary .double) : Fits (.scalar .double) (.float x)
  | vector {size : Dim} {component : Scalar} {a : Number.Array}
      (helement : a.element = component.element)
      (hshape : a.shape = [size.toNat]) :
    Fits (.vector size component) (.array a)
  | matrix {rows cols : Dim} {component : Precision} {a : Number.Array}
      (helement : a.element = component.scalar.element)
      (hshape : a.shape = [rows.toNat, cols.toNat]) :
    Fits (.matrix rows cols component) (.array a)
  | texture (t : Texture) : Fits .texture (.texture t)

theorem defaultValue_fits (t : UniformType) : t.Fits t.defaultValue := by
  cases t with
  | scalar s =>
    cases s with
    | bool => exact .bool false
    | int => exact .int 0
    | uint => exact .uint (by decide)
    | float => exact .float _
    | double => exact .double _
  | vector size component => exact .vector rfl rfl
  | matrix rows cols component => exact .matrix rfl rfl
  | texture => exact .texture {}

/-- What the converter of a type gives has the form of the type. -/
theorem convert_fits {t : UniformType} {stored : Stored}
    (h : t.converter.convert v = .ok stored) : t.Fits stored := by
  cases t with
  | scalar s =>
    cases s with
    | bool =>
      obtain ⟨b, -, rfl⟩ := Conversion.map_ok h
      exact .bool b
    | int =>
      obtain ⟨n, -, rfl⟩ := Conversion.map_ok h
      exact .int n
    | uint =>
      obtain ⟨n, hn, rfl⟩ := Conversion.map_ok h
      exact .uint (Conversion.toUint_range hn)
    | float =>
      obtain ⟨x, -, rfl⟩ := Conversion.map_ok h
      exact .float x
    | double =>
      obtain ⟨x, -, rfl⟩ := Conversion.map_ok h
      exact .double x
  | vector size component =>
    obtain ⟨a, ha, rfl⟩ := Conversion.map_ok h
    obtain ⟨helement, hshape⟩ := Conversion.toArrayOf_form ha
    exact .vector helement hshape
  | matrix rows cols component =>
    obtain ⟨a, ha, rfl⟩ := Conversion.map_ok h
    obtain ⟨helement, hshape⟩ := Conversion.toArrayOf_form ha
    exact .matrix helement hshape
  | texture =>
    obtain ⟨texture, -, rfl⟩ := Conversion.map_ok h
    exact .texture texture

theorem Fits.eq_texture {stored : Stored} (h : Fits .texture stored) :
    ∃ t, stored = .texture t := by
  cases h with
  | texture t => exact ⟨t, rfl⟩

/-! ## The call for a type -/

/-- The name of the call that passes values of a type. -/
def callName : UniformType → String
  | scalar s => s!"glUniform1{s.callSuffix}"
  | vector size component => s!"glUniform{size}{component.callSuffix}v"
  | matrix rows cols component => matrixCall rows cols component
  | texture => "glUniform1i"

/-- What is passed for a value of a type, after the location: a truth value as
a number, a number as it is, and of an array how many there are, for a matrix
the transpose flag, and the components, truth values being numbers. -/
def callArguments (transpose : Value) : UniformType → Stored → List Value
  | scalar .bool, stored => [.int (if stored = .bool true then 1 else 0)]
  | vector _ .bool, .array a => [.int 1, .array (a.cast .int32)]
  | vector .., stored => [.int 1, stored.value]
  | matrix .., stored => [.int 1, transpose, stored.value]
  | scalar _, stored | texture, stored => [stored.value]

/-- A value that has the form of its type is passed by the call for the type,
unless the type is that of textures. -/
theorem Fits.upload {t : UniformType} {stored : Stored} (h : t.Fits stored)
    (hvalue : t ≠ .texture) (transpose : Value) :
    ∃ upload, Binding.uploadOf? t transpose stored = some upload ∧
      upload.callName = t.callName ∧
      upload.arguments = t.callArguments transpose stored := by
  cases h with
  | bool b =>
    refine ⟨_, rfl, rfl, ?_⟩
    cases b <;> rfl
  | int n | uint | float x | double x => exact ⟨_, rfl, rfl, rfl⟩
  | @vector size component a helement hshape =>
    refine ⟨_, rfl, rfl, ?_⟩
    cases component <;> rfl
  | matrix helement hshape => exact ⟨_, rfl, rfl, rfl⟩
  | texture t => exact absurd rfl hvalue

end UniformType

end ShaderBindings
